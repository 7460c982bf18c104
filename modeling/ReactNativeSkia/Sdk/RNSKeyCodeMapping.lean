/-!
# Keys

`rnsKey` and `RNSKeyMap` (`ReactSkia/sdk/RNSKeyCodeMapping.h`). The code compares keys by their
place in the enumeration.
-/

namespace ReactNativeSkia

/-- `rnsKey`, in the order of the source. -/
inductive RnsKey where
  | RNS_KEY_PowerOff
  | RNS_KEY_AudioMedia
  | RNS_KEY_Menu
  | RNS_KEY_AudioLowerVolume
  | RNS_KEY_AudioRaiseVolume
  | RNS_KEY_ChannelUp
  | RNS_KEY_ChannelDown
  | RNS_KEY_Help
  | RNS_KEY_Refresh
  | RNS_KEY_AudioStop
  | RNS_KEY_AudioPlay
  | RNS_KEY_AudioPause
  | RNS_KEY_AudioNext
  | RNS_KEY_AudioRewind
  | RNS_KEY_AudioForward
  | RNS_KEY_AudioPrev
  | RNS_KEY_Green
  | RNS_KEY_Red
  | RNS_KEY_Blue
  | RNS_KEY_Yellow
  | RNS_KEY_TvRad
  | RNS_KEY_AudioRecord
  | RNS_KEY_Aud
  | RNS_KEY_Cancel
  | RNS_KEY_Mute
  | RNS_KEY_Guia
  | RNS_KEY_Select
  | RNS_KEY_Up
  | RNS_KEY_Down
  | RNS_KEY_Right
  | RNS_KEY_Left
  | RNS_KEY_1
  | RNS_KEY_2
  | RNS_KEY_3
  | RNS_KEY_4
  | RNS_KEY_5
  | RNS_KEY_6
  | RNS_KEY_7
  | RNS_KEY_8
  | RNS_KEY_9
  | RNS_KEY_0
  | RNS_KEY_A
  | RNS_KEY_B
  | RNS_KEY_C
  | RNS_KEY_D
  | RNS_KEY_E
  | RNS_KEY_F
  | RNS_KEY_G
  | RNS_KEY_H
  | RNS_KEY_I
  | RNS_KEY_J
  | RNS_KEY_K
  | RNS_KEY_L
  | RNS_KEY_M
  | RNS_KEY_N
  | RNS_KEY_O
  | RNS_KEY_P
  | RNS_KEY_Q
  | RNS_KEY_R
  | RNS_KEY_S
  | RNS_KEY_T
  | RNS_KEY_U
  | RNS_KEY_V
  | RNS_KEY_W
  | RNS_KEY_X
  | RNS_KEY_Y
  | RNS_KEY_Z
  | RNS_KEY_a
  | RNS_KEY_b
  | RNS_KEY_c
  | RNS_KEY_d
  | RNS_KEY_e
  | RNS_KEY_f
  | RNS_KEY_g
  | RNS_KEY_h
  | RNS_KEY_i
  | RNS_KEY_j
  | RNS_KEY_k
  | RNS_KEY_l
  | RNS_KEY_m
  | RNS_KEY_n
  | RNS_KEY_o
  | RNS_KEY_p
  | RNS_KEY_q
  | RNS_KEY_r
  | RNS_KEY_s
  | RNS_KEY_t
  | RNS_KEY_u
  | RNS_KEY_v
  | RNS_KEY_w
  | RNS_KEY_x
  | RNS_KEY_y
  | RNS_KEY_z
  | RNS_KEY_Space
  | RNS_KEY_Grave
  | RNS_KEY_Asciitilde
  | RNS_KEY_Exclam
  | RNS_KEY_At
  | RNS_KEY_Numbersign
  | RNS_KEY_Dollar
  | RNS_KEY_Asciicircum
  | RNS_KEY_Ampersand
  | RNS_KEY_Asterisk
  | RNS_KEY_ParenLeft
  | RNS_KEY_ParenRight
  | RNS_KEY_Underscore
  | RNS_KEY_Shash
  | RNS_KEY_Period
  | RNS_KEY_Comma
  | RNS_KEY_Question
  | RNS_KEY_Apostrophe
  | RNS_KEY_Quotedbl
  | RNS_KEY_Semicolon
  | RNS_KEY_Colon
  | RNS_KEY_Bar
  | RNS_KEY_BackSlash
  | RNS_KEY_BraceLeft
  | RNS_KEY_BraceRight
  | RNS_KEY_BracketLeft
  | RNS_KEY_BracketRight
  | RNS_KEY_Minus
  | RNS_KEY_Equal
  | RNS_KEY_Percent
  | RNS_KEY_Plus
  | RNS_KEY_Greater
  | RNS_KEY_Less
  | RNS_KEY_Delete
  | RNS_KEY_Back
  | RNS_KEY_Caps_Lock
  | RNS_KEY_Alt_L
  | RNS_KEY_Alt_R
  | RNS_KEY_Shift_L
  | RNS_KEY_Shift_R
  | RNS_KEY_Control_L
  | RNS_KEY_Control_R
  | RNS_KEY_Tab
  | RNS_KEY_Page_Up
  | RNS_KEY_Page_Down
  | RNS_KEY_Escape
  | RNS_KEY_Home
  | RNS_KEY_EndKey
  | RNS_KEY_Insert
  | RNS_KEY_UnKnown
  | RNS_KEY_End
  deriving DecidableEq, Repr

inductive RnsKeyAction where
  | RNS_KEY_UnknownAction
  | RNS_KEY_Press
  | RNS_KEY_Release
  deriving DecidableEq, Repr

namespace RnsKey

/-- `first <= key && key <= last`. -/
def between (key first last : RnsKey) : Bool :=
  decide (first.ctorIdx ≤ key.ctorIdx) && decide (key.ctorIdx ≤ last.ctorIdx)

end RnsKey

/-- `RNSKeyMap`, a `std::string` being the list of its characters. -/
def RNSKeyMap : RnsKey → List Char
  | .RNS_KEY_PowerOff => "powerOff".toList
  | .RNS_KEY_AudioMedia => "audioMedia".toList
  | .RNS_KEY_Menu => "menu".toList
  | .RNS_KEY_AudioLowerVolume => "audioLowerVolume".toList
  | .RNS_KEY_AudioRaiseVolume => "audioRaiseVolume".toList
  | .RNS_KEY_ChannelUp => "channelUp".toList
  | .RNS_KEY_ChannelDown => "channelDown".toList
  | .RNS_KEY_Help => "help".toList
  | .RNS_KEY_Refresh => "refresh".toList
  | .RNS_KEY_AudioStop => "stop".toList
  | .RNS_KEY_AudioPlay => "play".toList
  | .RNS_KEY_AudioPause => "pause".toList
  | .RNS_KEY_AudioNext => "next".toList
  | .RNS_KEY_AudioRewind => "rewind".toList
  | .RNS_KEY_AudioForward => "fastForward".toList
  | .RNS_KEY_AudioPrev => "previous".toList
  | .RNS_KEY_Green => "green".toList
  | .RNS_KEY_Red => "red".toList
  | .RNS_KEY_Blue => "blue".toList
  | .RNS_KEY_Yellow => "yellow".toList
  | .RNS_KEY_TvRad => "tvRad".toList
  | .RNS_KEY_AudioRecord => "audioRecord".toList
  | .RNS_KEY_Aud => "aud".toList
  | .RNS_KEY_Cancel => "cancel".toList
  | .RNS_KEY_Mute => "mute".toList
  | .RNS_KEY_Guia => "guia".toList
  | .RNS_KEY_Select => "select".toList
  | .RNS_KEY_Up => "up".toList
  | .RNS_KEY_Down => "down".toList
  | .RNS_KEY_Right => "right".toList
  | .RNS_KEY_Left => "left".toList
  | .RNS_KEY_1 => ['1']
  | .RNS_KEY_2 => ['2']
  | .RNS_KEY_3 => ['3']
  | .RNS_KEY_4 => ['4']
  | .RNS_KEY_5 => ['5']
  | .RNS_KEY_6 => ['6']
  | .RNS_KEY_7 => ['7']
  | .RNS_KEY_8 => ['8']
  | .RNS_KEY_9 => ['9']
  | .RNS_KEY_0 => ['0']
  | .RNS_KEY_A => ['A']
  | .RNS_KEY_B => ['B']
  | .RNS_KEY_C => ['C']
  | .RNS_KEY_D => ['D']
  | .RNS_KEY_E => ['E']
  | .RNS_KEY_F => ['F']
  | .RNS_KEY_G => ['G']
  | .RNS_KEY_H => ['H']
  | .RNS_KEY_I => ['I']
  | .RNS_KEY_J => ['J']
  | .RNS_KEY_K => ['K']
  | .RNS_KEY_L => ['L']
  | .RNS_KEY_M => ['M']
  | .RNS_KEY_N => ['N']
  | .RNS_KEY_O => ['O']
  | .RNS_KEY_P => ['P']
  | .RNS_KEY_Q => ['Q']
  | .RNS_KEY_R => ['R']
  | .RNS_KEY_S => ['S']
  | .RNS_KEY_T => ['T']
  | .RNS_KEY_U => ['U']
  | .RNS_KEY_V => ['V']
  | .RNS_KEY_W => ['W']
  | .RNS_KEY_X => ['X']
  | .RNS_KEY_Y => ['Y']
  | .RNS_KEY_Z => ['Z']
  | .RNS_KEY_a => ['a']
  | .RNS_KEY_b => ['b']
  | .RNS_KEY_c => ['c']
  | .RNS_KEY_d => ['d']
  | .RNS_KEY_e => ['e']
  | .RNS_KEY_f => ['f']
  | .RNS_KEY_g => ['g']
  | .RNS_KEY_h => ['h']
  | .RNS_KEY_i => ['i']
  | .RNS_KEY_j => ['j']
  | .RNS_KEY_k => ['k']
  | .RNS_KEY_l => ['l']
  | .RNS_KEY_m => ['m']
  | .RNS_KEY_n => ['n']
  | .RNS_KEY_o => ['o']
  | .RNS_KEY_p => ['p']
  | .RNS_KEY_q => ['q']
  | .RNS_KEY_r => ['r']
  | .RNS_KEY_s => ['s']
  | .RNS_KEY_t => ['t']
  | .RNS_KEY_u => ['u']
  | .RNS_KEY_v => ['v']
  | .RNS_KEY_w => ['w']
  | .RNS_KEY_x => ['x']
  | .RNS_KEY_y => ['y']
  | .RNS_KEY_z => ['z']
  | .RNS_KEY_Space => [' ']
  | .RNS_KEY_Grave => [Char.ofNat 96]
  | .RNS_KEY_Asciitilde => ['~']
  | .RNS_KEY_Exclam => ['!']
  | .RNS_KEY_At => ['@']
  | .RNS_KEY_Numbersign => ['#']
  | .RNS_KEY_Dollar => ['$']
  | .RNS_KEY_Asciicircum => ['^']
  | .RNS_KEY_Ampersand => ['&']
  | .RNS_KEY_Asterisk => ['*']
  | .RNS_KEY_ParenLeft => ['(']
  | .RNS_KEY_ParenRight => [')']
  | .RNS_KEY_Underscore => ['_']
  | .RNS_KEY_Shash => ['/']
  | .RNS_KEY_Period => ['.']
  | .RNS_KEY_Comma => [',']
  | .RNS_KEY_Question => ['?']
  | .RNS_KEY_Apostrophe => [Char.ofNat 39]
  | .RNS_KEY_Quotedbl => [Char.ofNat 34]
  | .RNS_KEY_Semicolon => [';']
  | .RNS_KEY_Colon => [':']
  | .RNS_KEY_Bar => ['|']
  | .RNS_KEY_BackSlash => [Char.ofNat 92]
  | .RNS_KEY_BraceLeft => [Char.ofNat 123]
  | .RNS_KEY_BraceRight => [Char.ofNat 125]
  | .RNS_KEY_BracketLeft => ['[']
  | .RNS_KEY_BracketRight => [']']
  | .RNS_KEY_Minus => ['-']
  | .RNS_KEY_Equal => ['=']
  | .RNS_KEY_Percent => ['%']
  | .RNS_KEY_Plus => ['+']
  | .RNS_KEY_Greater => ['>']
  | .RNS_KEY_Less => ['<']
  | .RNS_KEY_Delete => "delete".toList
  | .RNS_KEY_Back => "back".toList
  | .RNS_KEY_Caps_Lock => "capsLock".toList
  | .RNS_KEY_Alt_L => "altL".toList
  | .RNS_KEY_Alt_R => "altR".toList
  | .RNS_KEY_Shift_L => "shiftL".toList
  | .RNS_KEY_Shift_R => "shiftR".toList
  | .RNS_KEY_Control_L => "controlL".toList
  | .RNS_KEY_Control_R => "controlR".toList
  | .RNS_KEY_Tab => "tab".toList
  | .RNS_KEY_Page_Up => "pageUp".toList
  | .RNS_KEY_Page_Down => "pageDown".toList
  | .RNS_KEY_Escape => "escape".toList
  | .RNS_KEY_Home => "home".toList
  | .RNS_KEY_EndKey => "end".toList
  | .RNS_KEY_Insert => "insert".toList
  | .RNS_KEY_UnKnown => "unKnown".toList
  | .RNS_KEY_End => []

end ReactNativeSkia
