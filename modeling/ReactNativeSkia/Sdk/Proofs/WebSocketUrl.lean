import ReactNativeSkia.Misc.Delimited
import ReactNativeSkia.Sdk.NopollCalls

/-!
# The URLs of web sockets

`parseUrl` takes everything behind the scheme up to a colon for the host and everything behind that
colon for the port. Without a colon the whole end point is both, and a path is never cut off. A
string that is no URL of a web socket is rejected only without `s://`.
-/

namespace ReactNativeSkia

/-- `ws://host[:port][/path]`, with `wss` if it is `secure`. -/
structure WebSocketUrl where
  secure : Bool
  host : Chars
  port : Option Chars
  path : Option Chars
  host_ne_nil : host ≠ []
  colon_notMem_host : 58 ∉ host
  slash_notMem_host : 47 ∉ host
  port_digits : ∀ digits ∈ port, digits ≠ [] ∧ ∀ c ∈ digits, 48 ≤ c ∧ c ≤ 57

namespace WebSocketUrl

def scheme (form : WebSocketUrl) : Chars := if form.secure then chars "wss" else chars "ws"

def authority (form : WebSocketUrl) : Chars := form.host ++ delimited 58 form.port

def endPoint (form : WebSocketUrl) : Chars := form.authority ++ delimited 47 form.path

def text (form : WebSocketUrl) : Chars := form.scheme ++ chars "://" ++ form.endPoint

/-- The port, or else the default port of the scheme. -/
def portNumber (form : WebSocketUrl) : Chars :=
  form.port.getD (if form.secure then chars "443" else chars "80")

theorem scheme_eq (form : WebSocketUrl) :
    form.scheme = if form.secure then [119, 115, 115] else [119, 115] := by
  have hwss : chars "wss" = [119, 115, 115] := by decide +kernel
  have hws : chars "ws" = [119, 115] := by decide +kernel
  rw [scheme, hwss, hws]

theorem text_eq (form : WebSocketUrl) :
    form.text = form.scheme ++ 58 :: 47 :: 47 :: form.endPoint := by
  have hseparator : chars "://" = [58, 47, 47] := by decide +kernel
  rw [text, hseparator, List.append_assoc]
  rfl

theorem colon_notMem_scheme (form : WebSocketUrl) : 58 ∉ form.scheme := by
  rw [scheme_eq]
  split
  · decide
  · decide

theorem slash_notMem_authority (form : WebSocketUrl) : 47 ∉ form.authority := by
  rw [authority, List.mem_append, not_or]
  refine ⟨form.slash_notMem_host, ?_⟩
  cases hport : form.port with
  | none => exact List.not_mem_nil
  | some digits =>
    intro hmem
    rcases List.mem_cons.mp hmem with heq | hmem
    · cases heq
    · have hdigit := (form.port_digits digits hport).2 47 hmem
      exact absurd hdigit.1 (by decide)

/-! ## A text has one form -/

variable {form form' : WebSocketUrl}

theorem scheme_and_endPoint_eq (h : form.text = form'.text) :
    form.scheme = form'.scheme ∧ form.endPoint = form'.endPoint := by
  rw [text_eq, text_eq] at h
  have hdelimited : form.scheme ++ delimited 58 (some (47 :: 47 :: form.endPoint)) =
      form'.scheme ++ delimited 58 (some (47 :: 47 :: form'.endPoint)) := h
  obtain ⟨hscheme, hrest⟩ :=
    append_delimited_inj form.colon_notMem_scheme form'.colon_notMem_scheme hdelimited
  simp only [Option.some.injEq, List.cons.injEq, true_and] at hrest
  exact ⟨hscheme, hrest⟩

theorem secure_eq (h : form.scheme = form'.scheme) : form.secure = form'.secure := by
  have hlength := congrArg List.length h
  rw [scheme_eq, scheme_eq] at hlength
  cases hsecure : form.secure with
  | true =>
    cases hsecure' : form'.secure with
    | true => rfl
    | false => simp [hsecure, hsecure'] at hlength
  | false =>
    cases hsecure' : form'.secure with
    | true => simp [hsecure, hsecure'] at hlength
    | false => rfl

/-- The host, the port and the path can be read off the text. -/
theorem text_injective (h : form.text = form'.text) : form = form' := by
  obtain ⟨hscheme, hendPoint⟩ := scheme_and_endPoint_eq h
  obtain ⟨hauthority, hpath⟩ :=
    append_delimited_inj form.slash_notMem_authority form'.slash_notMem_authority hendPoint
  obtain ⟨hhost, hport⟩ :=
    append_delimited_inj form.colon_notMem_host form'.colon_notMem_host hauthority
  have hsecure := secure_eq hscheme
  obtain ⟨secure, host, port, path⟩ := form
  obtain ⟨secure', host', port', path'⟩ := form'
  simp only at hhost hport hpath hsecure
  simp only [hhost, hport, hpath, hsecure]

/-! ## The split -/

/-- What `parseUrl` makes of an end point. -/
def splitEndPoint (endPoint : Chars) : Chars × Chars :=
  (endPoint.take (endPoint.idxOf 58),
    if 58 ∈ endPoint then endPoint.drop (endPoint.idxOf 58 + 1) else endPoint)

theorem parseUrl_text (form : WebSocketUrl) :
    parseUrl form.text = some (splitEndPoint form.endPoint) := by
  have hinfix : chars "s://" <:+: form.text := by
    have hliteral : chars "s://" = [115, 58, 47, 47] := by decide +kernel
    rw [hliteral, text_eq, scheme_eq]
    split
    · exact ⟨[119, 115], form.endPoint, rfl⟩
    · exact ⟨[119], form.endPoint, rfl⟩
  have hdrop : form.text.drop (form.text.idxOf 58 + 3) = form.endPoint := by
    rw [text_eq, drop_idxOf_append_cons form.colon_notMem_scheme]
    rfl
  simp only [parseUrl, if_pos hinfix, hdrop]
  rfl

/-- With a colon: what is in front of it and what is behind. -/
theorem splitEndPoint_append_cons {host rest : Chars} (h : 58 ∉ host) :
    splitEndPoint (host ++ 58 :: rest) = (host, rest) := by
  have hmem : 58 ∈ host ++ 58 :: rest := List.mem_append_right _ List.mem_cons_self
  rw [splitEndPoint, take_idxOf_append_cons h, if_pos hmem, drop_idxOf_append_cons h]
  rfl

/-- Without one: the end point twice. -/
theorem splitEndPoint_of_notMem {endPoint : Chars} (h : 58 ∉ endPoint) :
    splitEndPoint endPoint = (endPoint, endPoint) := by
  rw [splitEndPoint, if_neg h, List.idxOf_of_notMem h, List.take_length]

/-- A path behind the host stays with it up to a colon. -/
theorem splitEndPoint_path_ne {host path : Chars} (h : 58 ∉ host) :
    (splitEndPoint (host ++ 47 :: path)).1 ≠ host := by
  intro heq
  have hlength := congrArg List.length heq
  rw [splitEndPoint, List.idxOf_append_of_notMem h, List.idxOf_cons_ne _ (by decide)] at hlength
  simp only [List.length_take, List.length_append, List.length_cons] at hlength
  omega

/-- The split is right exactly without a path, for a port that is given or is the host. -/
theorem parseUrl_text_iff (form : WebSocketUrl) :
    parseUrl form.text = some (form.host, form.portNumber) ↔
      form.path = none ∧ (form.port.isSome = true ∨ form.host = form.portNumber) := by
  rw [parseUrl_text, Option.some.injEq, endPoint, authority]
  cases hport : form.port with
  | some digits =>
    have hnumber : form.portNumber = digits := by rw [portNumber, hport]; rfl
    rw [hnumber, delimited, List.append_assoc, List.cons_append,
      splitEndPoint_append_cons form.colon_notMem_host, Prod.mk.injEq]
    cases hpath : form.path with
    | none => simp [delimited]
    | some path => simp [delimited]
  | none =>
    rw [delimited, List.append_nil]
    cases hpath : form.path with
    | none =>
      rw [delimited, List.append_nil, splitEndPoint_of_notMem form.colon_notMem_host]
      simp
    | some path =>
      constructor
      · intro heq
        exact absurd (congrArg Prod.fst heq) (splitEndPoint_path_ne form.colon_notMem_host)
      · intro h
        cases h.1

end WebSocketUrl

/-! ## Every string -/

/-- What `parseUrl` is for, of one string. -/
structure SplitCorrectly (url : Chars) : Prop where
  accepted : ∀ form : WebSocketUrl, form.text = url →
    parseUrl url = some (form.host, form.portNumber)
  rejected : (∀ form : WebSocketUrl, form.text ≠ url) → parseUrl url = none

theorem parseUrl_eq_none_iff (url : Chars) : parseUrl url = none ↔ ¬ chars "s://" <:+: url := by
  unfold parseUrl
  split
  · rename_i h
    simp [h]
  · rename_i h
    simp [h]

/-- nopoll is given the two parts whole unless there is a zero in the URL. -/
theorem getConnectNopoll_eq_parseUrl {url : Chars} (h : 0 ∉ url) :
    getConnectNopoll url = parseUrl url := by
  unfold getConnectNopoll parseUrl
  split
  · rw [Option.map_some]
    dsimp only
    have hdrop (n : Nat) : 0 ∉ url.drop n := fun hzero => h (List.mem_of_mem_drop hzero)
    rw [cString_eq_self fun hzero => hdrop _ (List.mem_of_mem_take hzero), cString_eq_self]
    split
    · exact fun hzero => hdrop _ (List.mem_of_mem_drop hzero)
    · exact hdrop _
  · rfl

/-- `parseUrl` is right for the URLs without a path whose port is given, for those whose host is
the default port, and for the strings without `s://`. -/
theorem splitCorrectly_iff (url : Chars) :
    SplitCorrectly url ↔
      (∃ form : WebSocketUrl, form.text = url ∧ form.path = none ∧
        (form.port.isSome = true ∨ form.host = form.portNumber)) ∨
      ((∀ form : WebSocketUrl, form.text ≠ url) ∧ ¬ chars "s://" <:+: url) := by
  constructor
  · intro h
    by_cases hform : ∃ form : WebSocketUrl, form.text = url
    · obtain ⟨form, rfl⟩ := hform
      have hsplit := (WebSocketUrl.parseUrl_text_iff form).mp (h.accepted form rfl)
      exact .inl ⟨form, rfl, hsplit⟩
    · have hno : ∀ form : WebSocketUrl, form.text ≠ url := fun form heq => hform ⟨form, heq⟩
      exact .inr ⟨hno, (parseUrl_eq_none_iff url).mp (h.rejected hno)⟩
  · rintro (⟨form, rfl, hsplit⟩ | ⟨hno, hinfix⟩)
    · refine ⟨?_, fun hno => absurd rfl (hno form)⟩
      intro form' heq
      rw [WebSocketUrl.text_injective heq]
      exact (WebSocketUrl.parseUrl_text_iff form).mpr hsplit
    · refine ⟨fun form heq => absurd heq (hno form), fun _ => ?_⟩
      exact (parseUrl_eq_none_iff url).mpr hinfix

/-- `ws://example.com/chat`: the path goes to the host and to the port. -/
theorem parseUrl_path_not_cut :
    parseUrl (chars "ws://example.com/chat") =
        some (chars "example.com/chat", chars "example.com/chat") ∧
      ¬ SplitCorrectly (chars "ws://example.com/chat") := by
  have hparse : parseUrl (chars "ws://example.com/chat") =
      some (chars "example.com/chat", chars "example.com/chat") := by decide +kernel
  refine ⟨hparse, fun h => ?_⟩
  let form : WebSocketUrl :=
    { secure := false
      host := chars "example.com"
      port := none
      path := some (chars "chat")
      host_ne_nil := by decide +kernel
      colon_notMem_host := by decide +kernel
      slash_notMem_host := by decide +kernel
      port_digits := by simp }
  have htext : form.text = chars "ws://example.com/chat" := by decide +kernel
  have haccepted := h.accepted form htext
  rw [hparse] at haccepted
  revert haccepted
  decide +kernel

end ReactNativeSkia
