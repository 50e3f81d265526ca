/-
# Cutting a text at a separator

Cutting a text is splitting the list of its characters, so that the library's
laws apply: joining the pieces gives the text back, and cutting what was joined
gives the pieces back if none of them holds the separator.  What the library
does not say is how many pieces there are, and where a suffix goes.
-/
import RpcStubs.Text.Pieces

namespace RpcStubs.Text

variable {separator : Char} {cs : List Char}

theorem pieces_eq_splitOn (separator : Char) (cs : List Char) :
    pieces separator cs = cs.splitOn separator := by
  induction cs with
  | nil => rfl
  | cons c cs ih =>
      rw [pieces, List.splitOn_cons_eq_if_modifyHead, ih]
      by_cases hc : c = separator
      · simp [hc]
      · cases hsplit : cs.splitOn separator with
        | nil => exact absurd hsplit (List.splitOn_ne_nil separator cs)
        | cons p ps => simp [hc]

/-- A separator in the middle is where the pieces of the two sides meet. -/
theorem pieces_append_cons (separator : Char) (cs ds : List Char) :
    pieces separator (cs ++ separator :: ds) = pieces separator cs ++ pieces separator ds := by
  simp only [pieces_eq_splitOn, List.splitOn_append_cons_self]

theorem pieces_of_notMem (h : separator ∉ cs) : pieces separator cs = [cs] := by
  rw [pieces_eq_splitOn, List.splitOn_eq_singleton h]

theorem pieces_append_separator (h : separator ∉ cs) (rest : List Char) :
    pieces separator (cs ++ separator :: rest) = cs :: pieces separator rest := by
  rw [pieces_append_cons, pieces_of_notMem h, List.singleton_append]

theorem intercalate_pieces (separator : Char) (cs : List Char) :
    [separator].intercalate (pieces separator cs) = cs := by
  rw [pieces_eq_splitOn, List.intercalate_splitOn]

theorem pieces_intercalate {ps : List (List Char)} (hne : ps ≠ []) (h : ∀ p ∈ ps, separator ∉ p) :
    pieces separator ([separator].intercalate ps) = ps := by
  rw [pieces_eq_splitOn, List.splitOn_intercalate separator h hne]

theorem notMem_of_mem_pieces {p : List Char} (h : p ∈ pieces separator cs) : separator ∉ p := by
  induction cs generalizing p with
  | nil =>
      rw [List.mem_singleton.mp h]
      exact List.not_mem_nil
  | cons c cs ih =>
      rw [pieces_eq_splitOn, List.splitOn_cons_eq_if_modifyHead, ← pieces_eq_splitOn] at h
      by_cases hc : c = separator
      · rw [if_pos (beq_iff_eq.mpr hc)] at h
        rcases List.mem_cons.mp h with rfl | h
        · exact List.not_mem_nil
        · exact ih h
      · rw [if_neg (by simpa using hc)] at h
        cases hpieces : pieces separator cs with
        | nil =>
            rw [hpieces] at h
            cases h
        | cons q qs =>
            rw [hpieces] at h ih
            rcases List.mem_cons.mp h with rfl | h
            · simp [Ne.symm hc, ih List.mem_cons_self]
            · exact ih (List.mem_cons_of_mem q h)

theorem length_pieces (separator : Char) (cs : List Char) :
    (pieces separator cs).length = cs.count separator + 1 := by
  induction cs with
  | nil => rfl
  | cons c cs ih =>
      rw [pieces_eq_splitOn] at ih ⊢
      rw [List.splitOn_cons_eq_if_modifyHead]
      by_cases hc : c = separator
      · simp [hc, ih]
      · simp [hc, ih]

theorem exists_last_cut (h : separator ∈ cs) :
    ∃ before last, cs = before ++ separator :: last ∧ separator ∉ last := by
  obtain ⟨last, before, hcs, hlast⟩ := List.eq_append_cons_of_mem (List.mem_reverse.mpr h)
  refine ⟨before.reverse, last.reverse, ?_, fun hmem => hlast (List.mem_reverse.mp hmem)⟩
  rw [← List.reverse_reverse cs, hcs]
  simp

/-- What is appended to a text and holds no separator belongs to its last piece. -/
theorem exists_last_piece (separator : Char) (cs : List Char) :
    ∃ front last, pieces separator cs = front ++ [last] ∧
      ∀ ending, separator ∉ ending →
        pieces separator (cs ++ ending) = front ++ [last ++ ending] := by
  by_cases hmem : separator ∈ cs
  · obtain ⟨before, last, rfl, hlast⟩ := exists_last_cut hmem
    refine ⟨pieces separator before, last, ?_, ?_⟩
    · rw [pieces_append_cons, pieces_of_notMem hlast]
    · intro ending hending
      have hboth : separator ∉ last ++ ending := by simp [hlast, hending]
      rw [List.append_assoc, List.cons_append, pieces_append_cons, pieces_of_notMem hboth]
  · refine ⟨[], cs, pieces_of_notMem hmem, ?_⟩
    intro ending hending
    exact pieces_of_notMem (by simp [hmem, hending])

theorem beforeSuffix?_eq_some {suffix cs name : List Char} :
    beforeSuffix? suffix cs = some name ↔ cs = name ++ suffix := by
  unfold beforeSuffix?
  constructor
  · intro h
    split at h
    next hs =>
      obtain ⟨a, rfl⟩ := List.isSuffixOf_iff_suffix.mp hs
      cases h
      simp
    next => cases h
  · rintro rfl
    rw [if_pos (List.isSuffixOf_iff_suffix.mpr ⟨name, rfl⟩)]
    simp

end RpcStubs.Text
