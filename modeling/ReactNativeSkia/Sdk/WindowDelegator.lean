import Mathlib.Logic.Function.Basic
import ReactNativeSkia.Compositor.Skia

/-!
# Drawing in a sub-window

`WindowDelegator::renderToDisplay` (`ReactSkia/sdk/WindowDelegator.cpp`) on an active window, with
partial updates built in. The buffer age is an argument of each call.
-/

namespace ReactNativeSkia

/-- `Picture` is what a canvas plays back. -/
structure PictureObject (Picture : Type) where
  dirtyRect : List SkIRect
  pictureCommand : Option Picture
  invalidate : Bool
  deriving DecidableEq, Repr

structure WindowSurface where
  supportsPartialUpdate_ : Bool
  fullScreenDirtyRects_ : List SkIRect
  deriving DecidableEq, Repr

/-- A call of `renderToDisplay`. -/
structure DrawCommit (Picture : Type) where
  pictureCommandKey : String
  pictureObj : PictureObject Picture
  batchCommit : Bool
  bufferAge : Int
  deriving DecidableEq, Repr

/-- A call of `swapBuffers`: the commits since the previous one, the dirty rects of what has been on
screen of each component, and `dirtyRects_`. -/
structure BufferSwap (Picture : Type) where
  commits : List (DrawCommit Picture)
  onScreen : String → List SkIRect
  dirtyRects : List SkIRect

/-- `commits` are those since the last swap. `drawn` are the dirty rects of the commit of each
component that has been played back last, and `onScreen` what they were at the last swap. -/
structure WindowDelegator (Picture : Type) where
  recentComponentCommands_ : List (String × PictureObject Picture) := []
  dirtyRects_ : List SkIRect := []
  commits : List (DrawCommit Picture) := []
  drawn : String → List SkIRect := fun _ => []
  onScreen : String → List SkIRect := fun _ => []
  swaps : List (BufferSwap Picture) := []

namespace WindowDelegator

/-- One turn of the loop over the rects of the component. -/
def generateRect (comDirtyRect : SkIRect) : List SkIRect → List SkIRect
  | [] => [comDirtyRect]
  | dirtyRect :: rest =>
    if dirtyRect = comDirtyRect ∨ dirtyRect.contains comDirtyRect = true then dirtyRect :: rest
    else if comDirtyRect.contains dirtyRect then generateRect comDirtyRect rest
    else dirtyRect :: generateRect comDirtyRect rest

def generateDirtyRect (dirtyRects_ componentDirtRects : List SkIRect) : List SkIRect :=
  componentDirtRects.foldl (fun dirtyRects r => generateRect r dirtyRects) dirtyRects_

variable {Picture : Type}

def findCommand (commands : List (String × PictureObject Picture)) (pictureCommandKey : String) :
    Option (PictureObject Picture) :=
  match commands with
  | [] => none
  | (key, pictureObj) :: rest =>
    if key = pictureCommandKey then some pictureObj else findCommand rest pictureCommandKey

def storeCommand (commands : List (String × PictureObject Picture)) (pictureCommandKey : String)
    (pictureObj : PictureObject Picture) : List (String × PictureObject Picture) :=
  match commands with
  | [] => [(pictureCommandKey, pictureObj)]
  | (key, stored) :: rest =>
    if key = pictureCommandKey then (pictureCommandKey, pictureObj) :: rest
    else (key, stored) :: storeCommand rest pictureCommandKey pictureObj

/-- The dirty rects of the stored command. -/
def storedRects (s : WindowDelegator Picture) (key : String) : List SkIRect :=
  ((findCommand s.recentComponentCommands_ key).map PictureObject.dirtyRect).getD []

def updateRecentCommand (surface : WindowSurface) (s : WindowDelegator Picture)
    (pictureCommandKey : String) (pictureObj : PictureObject Picture) (bufferAge : Int)
    (isUpdateDirtyRect : Bool) : WindowDelegator Picture :=
  { s with
    dirtyRects_ :=
      if isUpdateDirtyRect = true ∧ surface.supportsPartialUpdate_ = true ∧ bufferAge ≠ 0 then
        generateDirtyRect s.dirtyRects_ (s.storedRects pictureCommandKey)
      else s.dirtyRects_
    recentComponentCommands_ :=
      storeCommand s.recentComponentCommands_ pictureCommandKey pictureObj }

/-- The loop over the stored commands. -/
def playbackRects (surface : WindowSurface) (bufferAge : Int) :
    Bool → List (String × PictureObject Picture) → List SkIRect → List SkIRect
  | _, [], dirtyRects_ => dirtyRects_
  | fullScreenAddedAsDirtyRect, (_, pictureObj) :: rest, dirtyRects_ =>
    if pictureObj.pictureCommand.isSome ∧ surface.supportsPartialUpdate_ = true ∧
        fullScreenAddedAsDirtyRect = false then
      if bufferAge = 0 then
        playbackRects surface bufferAge true rest
          (generateDirtyRect dirtyRects_ surface.fullScreenDirtyRects_)
      else if pictureObj.invalidate then
        playbackRects surface bufferAge false rest
          (generateDirtyRect dirtyRects_ pictureObj.dirtyRect)
      else playbackRects surface bufferAge false rest dirtyRects_
    else playbackRects surface bufferAge fullScreenAddedAsDirtyRect rest dirtyRects_

/-- All stored commands are played back. -/
def playbackAll (surface : WindowSurface) (s : WindowDelegator Picture) (bufferAge : Int) :
    WindowDelegator Picture :=
  { s with
    dirtyRects_ :=
      playbackRects surface bufferAge false s.recentComponentCommands_ s.dirtyRects_
    drawn := fun key =>
      match findCommand s.recentComponentCommands_ key with
      | some ⟨dirtyRect, some _, _⟩ => dirtyRect
      | _ => s.drawn key }

/-- The received command is played back. -/
def playback (surface : WindowSurface) (s : WindowDelegator Picture) (pictureCommandKey : String)
    (pictureObj : PictureObject Picture) : WindowDelegator Picture :=
  if pictureObj.pictureCommand.isSome then
    { s with
      dirtyRects_ :=
        if surface.supportsPartialUpdate_ then
          generateDirtyRect s.dirtyRects_ pictureObj.dirtyRect
        else s.dirtyRects_
      drawn := Function.update s.drawn pictureCommandKey pictureObj.dirtyRect }
  else s

def swapBuffers (s : WindowDelegator Picture) : WindowDelegator Picture :=
  { s with
    dirtyRects_ := []
    commits := []
    onScreen := s.drawn
    swaps := s.swaps ++ [⟨s.commits, s.onScreen, s.dirtyRects_⟩] }

end WindowDelegator

open WindowDelegator

variable {Picture : Type}

/-- The command is stored and nothing else happens. -/
def DrawCommit.storesOnly (c : DrawCommit Picture) : Bool :=
  c.bufferAge != 1 && c.batchCommit

namespace WindowDelegator

/-- Up to the swap. -/
def draw (surface : WindowSurface) (s : WindowDelegator Picture) (c : DrawCommit Picture) :
    WindowDelegator Picture :=
  let s := { s with commits := s.commits ++ [c] }
  if c.storesOnly then
    s.updateRecentCommand surface c.pictureCommandKey c.pictureObj 0 false
  else
    let s := s.updateRecentCommand surface c.pictureCommandKey c.pictureObj c.bufferAge true
    if c.bufferAge ≠ 1 then s.playbackAll surface c.bufferAge
    else s.playback surface c.pictureCommandKey c.pictureObj

def renderToDisplay (surface : WindowSurface) (s : WindowDelegator Picture)
    (c : DrawCommit Picture) : WindowDelegator Picture :=
  let s := s.draw surface c
  if c.batchCommit then s else s.swapBuffers

end WindowDelegator

end ReactNativeSkia
