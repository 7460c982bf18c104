import ReactNativeSkia.Misc.Delimited
import ReactNativeSkia.Sdk.HeaderDelivery
import ReactNativeSkia.Sdk.Proofs.HeaderBuffer

/-!
# The headers of a chain of responses

With redirections followed, curl hands out the header blocks of all responses. Each of them ends
with an empty line and so runs the callback of the client, and nothing is taken out of the buffer in
between. Within a block a field is found by a colon and one blank: other white space behind the
colon hides the field or stays with its value, and a colon with a blank elsewhere makes up a field
that the block does not have.
-/

namespace ReactNativeSkia

/-- A header line: a name, a colon, white space, a value and a line end. -/
structure HeaderField where
  name : Chars
  space : Chars
  value : Chars
  name_ne_nil : name ≠ []
  colon_notMem_name : 58 ∉ name
  blank_notMem_name : 32 ∉ name
  space_blank : ∀ c ∈ space, isBlank c = true
  value_line : 13 ∉ value ∧ 10 ∉ value
  value_trimmed : ∀ c ∈ value.head?, isBlank c = false

/-- `HTTP/1.1 200 OK`, with the version in front of the first blank. -/
structure StatusLine where
  version : Chars
  status : Chars
  colon_notMem_version : 58 ∉ version
  blank_notMem_version : 32 ∉ version
  status_line : 13 ∉ status ∧ 10 ∉ status

structure HeaderBlock where
  statusLine : StatusLine
  fields : List HeaderField

namespace HeaderField

def line (field : HeaderField) : Chars :=
  field.name ++ 58 :: (field.space ++ field.value ++ HttpTransfer.blankLine)

/-- The white space begins with a blank. -/
def spaced (field : HeaderField) : Bool := field.space.head? == some 32

/-- What is behind the colon and the blank. -/
def stored (field : HeaderField) : Chars := field.space.tail ++ field.value

end HeaderField

def StatusLine.line (statusLine : StatusLine) : Chars :=
  statusLine.version ++ 32 :: (statusLine.status ++ HttpTransfer.blankLine)

namespace HeaderBlock

def lines (block : HeaderBlock) : List Chars :=
  block.statusLine.line :: block.fields.map HeaderField.line ++ [HttpTransfer.blankLine]

/-- The last field of the name. -/
def field? (block : HeaderBlock) (name : Chars) : Option HeaderField :=
  block.fields.reverse.find? fun field => field.name == name

/-- The last field of the name with a blank behind the colon. -/
def spacedField? (block : HeaderBlock) (name : Chars) : Option HeaderField :=
  block.fields.reverse.find? fun field => field.name == name && field.spaced

end HeaderBlock

/-- The blocks of a chain, line by line. -/
def receiveHeaders (blocks : List HeaderBlock) : HeaderDelivery :=
  (blocks.flatMap HeaderBlock.lines).foldl headerCallbackCurlWrapper {}

/-- The callback has run once, and the buffer has then had the names of the block and their values,
the last one for a name that is repeated. -/
def DeliversOnce (final : HeaderBlock) (s : HeaderDelivery) : Prop :=
  ∃ headerBuffer, s.callbacks = [headerBuffer] ∧
    ∀ name, headerBuffer.lookup name = (final.field? name).map HeaderField.value

/-- No colon with a blank but behind names, and for each name the last such field has one blank and
the value that counts. -/
structure HeaderBlock.Plain (block : HeaderBlock) : Prop where
  status : ¬ [58, 32] <:+: block.statusLine.status
  value : ∀ field ∈ block.fields, field.spaced = false → ¬ [58, 32] <:+: field.value
  field : ∀ field ∈ block.fields, ∃ spaced ∈ block.spacedField? field.name,
    spaced.space = [32] ∧ (block.field? field.name).map HeaderField.value = some spaced.value

/-! ## Lines -/

theorem infix_append_blankLine_iff (line : Chars) :
    [58, 32] <:+: line ++ HttpTransfer.blankLine ↔ [58, 32] <:+: line := by
  induction line with
  | nil => decide
  | cons c line ih =>
    rw [List.cons_append, List.infix_cons_iff, List.infix_cons_iff, ih, List.cons_prefix_cons,
      List.cons_prefix_cons]
    cases line with
    | nil => simp [HttpTransfer.blankLine]
    | cons c' line => simp

theorem splitHeader_blankLine : splitHeader HttpTransfer.blankLine = none := by decide

theorem takeWhile_blankLine {front : Chars} (h : 13 ∉ front) :
    (front ++ HttpTransfer.blankLine).takeWhile (· ≠ 13) = front := by
  have hline : HttpTransfer.blankLine = delimited 13 (some [10]) := rfl
  rw [hline, takeWhile_append_delimited h]

namespace HeaderField

variable (field : HeaderField)

theorem notMem_space {c : UInt8} (h : isBlank c = false) : c ∉ field.space := by
  intro hmem
  rw [field.space_blank c hmem] at h
  cases h

theorem space_of_spaced (h : field.spaced = true) : field.space = 32 :: field.space.tail := by
  rw [spaced, beq_iff_eq] at h
  exact List.eq_cons_of_mem_head? h

theorem splitHeader_line_of_spaced (h : field.spaced = true) :
    splitHeader field.line = some (field.name, field.stored) := by
  have hline : field.line =
      field.name ++ 58 :: 32 :: (field.stored ++ HttpTransfer.blankLine) := by
    rw [line, space_of_spaced field h]
    rfl
  have hfree : 13 ∉ field.stored := by
    rw [stored, List.mem_append, not_or]
    exact ⟨fun hmem => field.notMem_space (by decide) (List.mem_of_mem_tail hmem),
      field.value_line.1⟩
  rw [hline, splitHeader_append field.colon_notMem_name, splitHeader_separator,
    takeWhile_blankLine hfree]
  simp

/-- Without a blank behind the colon whatever is found is another name. -/
theorem splitHeader_line_of_not_spaced (h : field.spaced = false) :
    splitHeader field.line =
      (splitHeader (field.space ++ field.value ++ HttpTransfer.blankLine)).map fun header =>
        (field.name ++ 58 :: header.1, header.2) := by
  have hhead : (field.space ++ field.value ++ HttpTransfer.blankLine).head? ≠ some 32 := by
    rw [spaced, beq_eq_false_iff_ne] at h
    cases hspace : field.space with
    | cons c more =>
      rw [hspace] at h
      exact h
    | nil =>
      cases hvalue : field.value with
      | nil => decide
      | cons c more =>
        intro heq
        have hblank := field.value_trimmed c (by rw [hvalue]; rfl)
        rw [show c = 32 from Option.some.inj heq] at hblank
        cases hblank
  rw [line, splitHeader_append field.colon_notMem_name, splitHeader_colon hhead, Option.map_map]
  rfl

/-- A field is made up out of the value. -/
theorem splitHeader_line_eq_none_iff (h : field.spaced = false) :
    splitHeader field.line = none ↔ ¬ [58, 32] <:+: field.value := by
  rw [splitHeader_line_of_not_spaced field h, Option.map_eq_none_iff, splitHeader_eq_none_iff,
    infix_append_blankLine_iff, infix_append_iff_of_notMem (field.notMem_space (by decide))]

theorem line_ne_blankLine : field.line ≠ HttpTransfer.blankLine := by
  intro heq
  have hmem : (58 : UInt8) ∈ field.line := List.mem_append_right _ List.mem_cons_self
  rw [heq] at hmem
  revert hmem
  decide

end HeaderField

namespace StatusLine

variable (statusLine : StatusLine)

theorem splitHeader_line :
    splitHeader statusLine.line =
      (splitHeader (statusLine.status ++ HttpTransfer.blankLine)).map fun header =>
        (statusLine.version ++ 32 :: header.1, header.2) := by
  have hblank (line : Chars) : splitHeader (32 :: line) =
      (splitHeader line).map fun header => (32 :: header.1, header.2) := rfl
  rw [line, splitHeader_append statusLine.colon_notMem_version, hblank, Option.map_map]
  rfl

theorem splitHeader_line_eq_none_iff :
    splitHeader statusLine.line = none ↔ ¬ [58, 32] <:+: statusLine.status := by
  rw [splitHeader_line, Option.map_eq_none_iff, splitHeader_eq_none_iff,
    infix_append_blankLine_iff]

theorem line_ne_blankLine : statusLine.line ≠ HttpTransfer.blankLine := by
  intro heq
  have hmem : (32 : UInt8) ∈ statusLine.line := List.mem_append_right _ List.mem_cons_self
  rw [heq] at hmem
  revert hmem
  decide

end StatusLine

/-! ## What a block leaves in the buffer -/

namespace HeaderBlock

variable (block : HeaderBlock)

theorem lastField_fields {name : Chars} (h : 58 ∉ name) (fields : List HeaderField) :
    lastField name (fields.map HeaderField.line) =
      (fields.reverse.find? fun field => field.name == name && field.spaced).map
        HeaderField.stored := by
  induction fields with
  | nil => rfl
  | cons field fields ih =>
    rw [List.map_cons, lastField, ih, List.reverse_cons, List.find?_append, Option.map_or]
    congr 1
    cases hspaced : field.spaced with
    | true =>
      rw [field.splitHeader_line_of_spaced hspaced, Option.bind_some]
      by_cases hname : field.name = name
      · simp [hname, hspaced]
      · simp [hname]
    | false =>
      rw [field.splitHeader_line_of_not_spaced hspaced]
      have hne (header : Chars × Chars) : field.name ++ 58 :: header.1 ≠ name := by
        intro heq
        rw [← heq] at h
        exact h (List.mem_append_right _ List.mem_cons_self)
      simp [hspaced, Option.bind_map, hne]

/-- For the name of a header line only the fields with a blank behind the colon count. -/
theorem lastField_lines {name : Chars} (h58 : 58 ∉ name) (h32 : 32 ∉ name) :
    lastField name block.lines = (block.spacedField? name).map HeaderField.stored := by
  have hstatus : ((splitHeader block.statusLine.line).bind fun header =>
      if header.1 = name then some header.2 else none) = none := by
    have hne (header : Chars × Chars) : block.statusLine.version ++ 32 :: header.1 ≠ name := by
      intro heq
      rw [← heq] at h32
      exact h32 (List.mem_append_right _ List.mem_cons_self)
    simp [block.statusLine.splitHeader_line, Option.bind_map, hne]
  have hblank : lastField name [HttpTransfer.blankLine] = none := by
    simp [lastField, splitHeader_blankLine]
  rw [lines, lastField_append, hblank, Option.none_or, lastField, hstatus, Option.or_none,
    lastField_fields h58]
  rfl

theorem mem_of_field? {name : Chars} {field : HeaderField} (h : block.field? name = some field) :
    field ∈ block.fields ∧ field.name = name := by
  have hname := List.find?_some h
  exact ⟨List.mem_reverse.mp (List.mem_of_find?_eq_some h), by simpa using hname⟩

theorem mem_of_spacedField? {name : Chars} {field : HeaderField}
    (h : block.spacedField? name = some field) :
    field ∈ block.fields ∧ field.name = name ∧ field.spaced = true := by
  have hname := List.find?_some h
  refine ⟨List.mem_reverse.mp (List.mem_of_find?_eq_some h), ?_⟩
  simpa using hname

theorem isSome_field?_of_mem {field : HeaderField} (h : field ∈ block.fields) :
    (block.field? field.name).isSome = true := by
  rw [field?, List.find?_isSome]
  exact ⟨field, List.mem_reverse.mpr h, by simp⟩

/-- The buffer has the fields of the block and nothing else. -/
def Exact : Prop :=
  ∀ name, lastField name block.lines = (block.field? name).map HeaderField.value

variable {block}

/-- Nothing but a name of the block is found. -/
theorem Exact.exists_field (h : block.Exact) {line name value : Chars} (hline : line ∈ block.lines)
    (hsplit : splitHeader line = some (name, value)) :
    ∃ field ∈ block.fields, field.name = name := by
  have hsome := (isSome_lastField_iff name block.lines).mpr ⟨line, hline, value, hsplit⟩
  rw [h name, Option.isSome_map, Option.isSome_iff_exists] at hsome
  obtain ⟨field, hfield⟩ := hsome
  exact ⟨field, block.mem_of_field? hfield⟩

theorem Exact.plain (h : block.Exact) : block.Plain := by
  constructor
  · rw [← StatusLine.splitHeader_line_eq_none_iff, Option.eq_none_iff_forall_ne_some]
    intro header hsplit
    have hstatus : block.statusLine.line ∈ block.lines := List.mem_cons_self
    obtain ⟨field, -, hname⟩ := h.exists_field hstatus hsplit
    rw [StatusLine.splitHeader_line, Option.map_eq_some_iff] at hsplit
    obtain ⟨found, -, rfl⟩ := hsplit
    have hfree := field.blank_notMem_name
    rw [hname] at hfree
    exact hfree (List.mem_append_right _ List.mem_cons_self)
  · intro field hfield hspaced
    rw [← field.splitHeader_line_eq_none_iff hspaced, Option.eq_none_iff_forall_ne_some]
    intro header hsplit
    have hline : field.line ∈ block.lines :=
      List.mem_append_left _ (List.mem_cons_of_mem _ (List.mem_map_of_mem hfield))
    obtain ⟨other, -, hname⟩ := h.exists_field hline hsplit
    rw [field.splitHeader_line_of_not_spaced hspaced, Option.map_eq_some_iff] at hsplit
    obtain ⟨found, -, rfl⟩ := hsplit
    have hfree := other.colon_notMem_name
    rw [hname] at hfree
    exact hfree (List.mem_append_right _ List.mem_cons_self)
  · intro field hfield
    have hexact := h field.name
    rw [block.lastField_lines field.colon_notMem_name field.blank_notMem_name] at hexact
    obtain ⟨last, hlast⟩ := Option.isSome_iff_exists.mp (block.isSome_field?_of_mem hfield)
    rw [hlast, Option.map_some, Option.map_eq_some_iff] at hexact
    obtain ⟨spaced, hmem, hstored⟩ := hexact
    have hspace := spaced.space_of_spaced (block.mem_of_spacedField? hmem).2.2
    -- more white space would be in front of the value
    have htail : spaced.space.tail = [] := by
      cases htail : spaced.space.tail with
      | nil => rfl
      | cons c more =>
        have hblank : isBlank c = true :=
          spaced.space_blank c (List.mem_of_mem_tail (htail ▸ List.mem_cons_self))
        have hvalue : last.value.head? = some c := by
          rw [← hstored, HeaderField.stored, htail]
          rfl
        rw [last.value_trimmed c hvalue] at hblank
        cases hblank
    rw [HeaderField.stored, htail, List.nil_append] at hstored
    rw [htail] at hspace
    refine ⟨spaced, hmem, hspace, ?_⟩
    rw [hlast, Option.map_some, hstored]

theorem Plain.exact (h : block.Plain) : block.Exact := by
  intro name
  by_cases hname : ∃ field ∈ block.fields, field.name = name
  · obtain ⟨field, hfield, rfl⟩ := hname
    obtain ⟨spaced, hmem, hspace, hvalue⟩ := h.field field hfield
    rw [block.lastField_lines field.colon_notMem_name field.blank_notMem_name, hmem, hvalue,
      Option.map_some, HeaderField.stored, hspace]
    rfl
  · have hnone : block.field? name = none := by
      rw [Option.eq_none_iff_forall_ne_some]
      intro field hfield
      exact hname ⟨field, block.mem_of_field? hfield⟩
    rw [hnone, Option.map_none, ← Option.not_isSome_iff_eq_none, isSome_lastField_iff]
    rintro ⟨line, hline, value, hsplit⟩
    rw [lines, List.cons_append, List.mem_cons, List.mem_append, List.mem_singleton,
      List.mem_map] at hline
    rcases hline with rfl | ⟨field, hfield, rfl⟩ | rfl
    · rw [(StatusLine.splitHeader_line_eq_none_iff _).mpr h.status] at hsplit
      cases hsplit
    · cases hspaced : field.spaced with
      | true =>
        rw [field.splitHeader_line_of_spaced hspaced] at hsplit
        cases hsplit
        exact hname ⟨field, hfield, rfl⟩
      | false =>
        rw [(field.splitHeader_line_eq_none_iff hspaced).mpr (h.value field hfield hspaced)]
          at hsplit
        cases hsplit
    · rw [splitHeader_blankLine] at hsplit
      cases hsplit

end HeaderBlock

/-! ## The chain -/

theorem foldl_headerCallbackCurlWrapper {lines : List Chars}
    (h : ∀ line ∈ lines, line ≠ HttpTransfer.blankLine) (s : HeaderDelivery) :
    lines.foldl headerCallbackCurlWrapper s =
      { s with curlResponse := lines.foldl CurlResponse.headerCallback s.curlResponse } := by
  induction lines generalizing s with
  | nil => rfl
  | cons line lines ih =>
    have hline : headerCallbackCurlWrapper s line =
        { s with curlResponse := s.curlResponse.headerCallback line } := by
      rw [headerCallbackCurlWrapper]
      simp only [if_neg (h line List.mem_cons_self)]
    rw [List.foldl_cons, hline, ih fun line hmem => h line (List.mem_cons_of_mem _ hmem)]
    rfl

/-- The callback runs once for each block, with all that has been received by then. -/
theorem foldl_block_lines (block : HeaderBlock) (s : HeaderDelivery) :
    block.lines.foldl headerCallbackCurlWrapper s =
      { curlResponse := block.lines.foldl CurlResponse.headerCallback s.curlResponse
        callbacks := s.callbacks ++
          [(block.lines.foldl CurlResponse.headerCallback s.curlResponse).headerBuffer] } := by
  have hlines : ∀ line ∈ block.statusLine.line :: block.fields.map HeaderField.line,
      line ≠ HttpTransfer.blankLine := by
    intro line hline
    rcases List.mem_cons.mp hline with rfl | hline
    · exact block.statusLine.line_ne_blankLine
    · obtain ⟨field, -, rfl⟩ := List.mem_map.mp hline
      exact field.line_ne_blankLine
  rw [HeaderBlock.lines, List.foldl_append, List.foldl_append,
    foldl_headerCallbackCurlWrapper hlines]
  simp only [List.foldl_cons, List.foldl_nil, headerCallbackCurlWrapper, if_true]

theorem length_callbacks (blocks : List HeaderBlock) (s : HeaderDelivery) :
    ((blocks.flatMap HeaderBlock.lines).foldl headerCallbackCurlWrapper s).callbacks.length =
      s.callbacks.length + blocks.length := by
  induction blocks generalizing s with
  | nil => rfl
  | cons block blocks ih =>
    rw [List.flatMap_cons, List.foldl_append, ih, foldl_block_lines, List.length_append,
      List.length_singleton, List.length_cons]
    omega

theorem callbacks_singleton (block : HeaderBlock) :
    (receiveHeaders [block]).callbacks =
      [(block.lines.foldl CurlResponse.headerCallback {}).headerBuffer] := by
  rw [receiveHeaders, List.flatMap_singleton, foldl_block_lines]
  rfl

theorem lookup_block (block : HeaderBlock) (name : Chars) :
    (block.lines.foldl CurlResponse.headerCallback {}).headerBuffer.lookup name =
      lastField name block.lines := by
  rw [CurlResponse.lookup_headerCallback]
  exact Option.or_none

/-- The headers of a chain are delivered exactly if there was no redirection and the one block is
plain. -/
theorem deliversOnce_iff (earlier : List HeaderBlock) (final : HeaderBlock) :
    DeliversOnce final (receiveHeaders (earlier ++ [final])) ↔
      earlier = [] ∧ final.Plain := by
  constructor
  · rintro ⟨headerBuffer, hcallbacks, hlookup⟩
    have hlength := length_callbacks (earlier ++ [final]) {}
    rw [← receiveHeaders, hcallbacks, List.length_append] at hlength
    have hearlier : earlier = [] := by
      apply List.eq_nil_of_length_eq_zero
      simpa using hlength
    subst hearlier
    refine ⟨rfl, HeaderBlock.Exact.plain fun name => ?_⟩
    rw [List.nil_append, callbacks_singleton] at hcallbacks
    rw [← lookup_block, List.singleton_inj.mp hcallbacks, hlookup]
  · rintro ⟨rfl, hplain⟩
    refine ⟨_, callbacks_singleton final, fun name => ?_⟩
    rw [lookup_block, hplain.exact name]

/-- A redirection and the response behind it. -/
theorem redirect_delivered_twice :
    ∃ redirect ok : HeaderBlock,
      redirect.lines = [chars "HTTP/1.1 302 Found\x0d\n", chars "Location: /b\x0d\n",
        chars "\x0d\n"] ∧
      ok.lines = [chars "HTTP/1.1 200 OK\x0d\n", chars "ETag:\x22x\x22\x0d\n", chars "\x0d\n"] ∧
      (receiveHeaders [redirect, ok]).callbacks =
        [[(chars "Location", chars "/b")], [(chars "Location", chars "/b")]] ∧
      ¬ DeliversOnce ok (receiveHeaders [redirect, ok]) := by
  let redirect : HeaderBlock :=
    { statusLine := ⟨chars "HTTP/1.1", chars "302 Found", by decide +kernel, by decide +kernel,
        by decide +kernel⟩
      fields := [⟨chars "Location", chars " ", chars "/b", by decide +kernel, by decide +kernel,
        by decide +kernel, by decide +kernel, by decide +kernel, by decide +kernel⟩] }
  let ok : HeaderBlock :=
    { statusLine := ⟨chars "HTTP/1.1", chars "200 OK", by decide +kernel, by decide +kernel,
        by decide +kernel⟩
      fields := [⟨chars "ETag", [], chars "\x22x\x22", by decide +kernel, by decide +kernel,
        by decide +kernel, by decide +kernel, by decide +kernel, by decide +kernel⟩] }
  have hcallbacks : (receiveHeaders [redirect, ok]).callbacks =
      [[(chars "Location", chars "/b")], [(chars "Location", chars "/b")]] := by decide +kernel
  refine ⟨redirect, ok, by decide +kernel, by decide +kernel, hcallbacks, ?_⟩
  rintro ⟨headerBuffer, honce, -⟩
  rw [hcallbacks] at honce
  cases honce

end ReactNativeSkia
