import ReactNativeSkia.Sdk.CurlResponse

/-!
# The header buffer

The lines that the header callback is given are split one by one. For each name the buffer holds
what the last line that is split into that name has left.
-/

namespace ReactNativeSkia

/-- The value of the last line with exactly this name. -/
def lastField (name : Chars) : List Chars → Option Chars
  | [] => none
  | line :: rest =>
    (lastField name rest).or
      ((splitHeader line).bind fun header => if header.1 = name then some header.2 else none)

theorem lastField_append (name : Chars) (lines rest : List Chars) :
    lastField name (lines ++ rest) = (lastField name rest).or (lastField name lines) := by
  induction lines with
  | nil => simp [lastField]
  | cons line lines ih => rw [List.cons_append, lastField, lastField, ih, Option.or_assoc]

theorem isSome_lastField_iff (name : Chars) (lines : List Chars) :
    (lastField name lines).isSome = true ↔
      ∃ line ∈ lines, ∃ value, splitHeader line = some (name, value) := by
  induction lines with
  | nil => simp [lastField]
  | cons line lines ih =>
    rw [lastField, Option.isSome_or, Bool.or_eq_true, ih, List.exists_mem_cons_iff, or_comm]
    refine or_congr ?_ Iff.rfl
    cases hsplit : splitHeader line with
    | none => simp
    | some header =>
      obtain ⟨n, value⟩ := header
      by_cases hn : n = name
      · simp [hn]
      · simp [hn]

/-! ## Lines that are split -/

/-- The first colon and blank are not looked for in front of a colon. -/
theorem splitHeader_append {front : Chars} (h : 58 ∉ front) (line : Chars) :
    splitHeader (front ++ line) =
      (splitHeader line).map fun header => (front ++ header.1, header.2) := by
  induction front with
  | nil => simp
  | cons c front ih =>
    rw [List.mem_cons, not_or] at h
    have hcons : splitHeader (c :: (front ++ line)) =
        (splitHeader (front ++ line)).map fun header => (c :: header.1, header.2) := by
      rw [splitHeader]
      intro rest heq
      exact absurd heq.symm h.1
    rw [List.cons_append, hcons, ih h.2, Option.map_map]
    rfl

theorem splitHeader_separator (rest : Chars) :
    splitHeader (58 :: 32 :: rest) = some ([], rest.takeWhile (· ≠ 13)) := rfl

/-- A colon with something else behind it stays in the name. -/
theorem splitHeader_colon {line : Chars} (h : line.head? ≠ some 32) :
    splitHeader (58 :: line) =
      (splitHeader line).map fun header => (58 :: header.1, header.2) := by
  rw [splitHeader]
  intro rest _ heq
  rw [heq] at h
  exact h rfl

theorem splitHeader_eq_none_iff (line : Chars) :
    splitHeader line = none ↔ ¬ [58, 32] <:+: line := by
  induction line using splitHeader.induct with
  | case1 rest =>
    have hinfix : [58, 32] <:+: 58 :: 32 :: rest := ⟨[], rest, rfl⟩
    simp [splitHeader, hinfix]
  | case2 c rest hne ih =>
    rw [splitHeader, Option.map_eq_none_iff, ih, List.infix_cons_iff, not_or]
    · constructor
      · intro hrest
        refine ⟨?_, hrest⟩
        rintro ⟨more, hmore⟩
        cases hmore
        exact hne more rfl rfl
      · intro h
        exact h.2
    · exact hne
  | case3 => simp [splitHeader]

namespace CurlResponse

theorem lookup_filter_ne {name other : Chars} (h : other ≠ name) (headers : List (Chars × Chars)) :
    (headers.filter fun header => header.1 ≠ name).lookup other = headers.lookup other := by
  induction headers with
  | nil => rfl
  | cons header headers ih =>
    obtain ⟨n, value⟩ := header
    by_cases hn : n = name
    · have hne : (other == n) = false := beq_false_of_ne (hn ▸ h)
      rw [List.filter_cons_of_neg (by simpa using hn), ih, List.lookup_cons, hne]
    · rw [List.filter_cons_of_pos (by simpa using hn), List.lookup_cons, List.lookup_cons, ih]

/-- The last line with the name is what the buffer holds. -/
theorem lookup_headerCallback (response : CurlResponse) (lines : List Chars) (name : Chars) :
    (lines.foldl headerCallback response).headerBuffer.lookup name =
      (lastField name lines).or (response.headerBuffer.lookup name) := by
  induction lines generalizing response with
  | nil => rfl
  | cons line rest ih =>
    rw [List.foldl_cons, ih, lastField, Option.or_assoc]
    congr 1
    unfold headerCallback
    dsimp only
    cases splitHeader line with
    | none => rfl
    | some header =>
      obtain ⟨n, value⟩ := header
      dsimp only
      rw [Option.bind_some, List.lookup_cons]
      by_cases hn : n = name
      · rw [if_pos hn, hn, beq_self_eq_true]
        rfl
      · have hne : (name == n) = false := beq_false_of_ne (Ne.symm hn)
        rw [if_neg hn, hne, lookup_filter_ne (Ne.symm hn)]
        rfl

end CurlResponse

end ReactNativeSkia
