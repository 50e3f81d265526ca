/-
# When two files share a namespace token

A token is the path of a file after two losses: the first `.proto` is gone,
wherever it stood, and the three separators have become underscores.  So no
token holds a separator, and a text that begins with a token and a dot begins
with no other token and a dot.

What is lost is exactly what two paths may differ in.  In general that is said
of what is left of the paths without the first `.proto` (`token_eq_iff`).  In a
path that holds `.proto` at its end and nowhere else, what is left is the stem.
-/
import Mathlib.Data.List.Forall2
import RpcStubs.Proofs.ServiceImports

namespace RpcStubs

/-! ## The first occurrence of a pattern -/

theorem Text.eraseFirst_append {pattern before after : List Char} (hpattern : pattern ≠ [])
    (hfirst : ∀ a b, before ++ pattern ++ after = a ++ pattern ++ b → before.length ≤ a.length) :
    eraseFirst pattern (before ++ pattern ++ after) = before ++ after := by
  induction before with
  | nil =>
      obtain ⟨c, cs, rfl⟩ := List.exists_cons_of_ne_nil hpattern
      have hfound : (c :: cs).isPrefixOf (c :: (cs ++ after)) = true :=
        List.isPrefixOf_iff_prefix.mpr (List.prefix_append (c :: cs) after)
      simp only [List.nil_append, List.cons_append]
      rw [eraseFirst, if_pos hfound]
      exact List.drop_left
  | cons c before ih =>
      have hlater : ¬ pattern.isPrefixOf (c :: (before ++ pattern ++ after)) = true := by
        intro hfound
        obtain ⟨b, hb⟩ := List.isPrefixOf_iff_prefix.mp hfound
        exact absurd (hfirst [] b hb.symm) (by simp)
      simp only [List.cons_append]
      rw [eraseFirst, if_neg hlater, ih]
      intro a b hab
      have hlonger := hfirst (c :: a) b (congrArg (c :: ·) hab)
      exact Nat.le_of_succ_le_succ hlonger

namespace SchemaPath

/-! ## Characters that are told apart -/

/-- The characters that all look alike in a token. -/
def alike : List Char := ['/', '.', '-', '_']

/-- Two characters that a token does not tell apart. -/
def Confusable (c d : Char) : Prop := c = d ∨ c ∈ alike ∧ d ∈ alike

instance (c d : Char) : Decidable (Confusable c d) := inferInstanceAs (Decidable (_ ∨ _))

/-- How a character stands in a token. -/
def inToken (c : Char) : Char := if isSeparator c then '_' else c

theorem inToken_of_mem {c : Char} (h : c ∈ alike) : inToken c = '_' := by
  have hall : alike.all (inToken · == '_') = true := by decide
  exact beq_iff_eq.mp (List.all_eq_true.mp hall c h)

theorem inToken_of_notMem {c : Char} (h : c ∉ alike) : inToken c = c := by
  have hseparator : isSeparator c = false := by
    simp only [alike, List.mem_cons, not_or] at h
    simp [isSeparator, h]
  rw [inToken, hseparator]
  rfl

theorem inToken_eq_iff {c d : Char} : inToken c = inToken d ↔ Confusable c d := by
  have hunderscore : '_' ∈ alike := by decide
  by_cases hc : c ∈ alike <;> by_cases hd : d ∈ alike
  · simp [Confusable, inToken_of_mem, hc, hd]
  · rw [inToken_of_mem hc, inToken_of_notMem hd]
    constructor
    · rintro rfl
      exact absurd hunderscore hd
    · rintro (rfl | ⟨-, hd'⟩)
      · exact absurd hc hd
      · exact absurd hd' hd
  · rw [inToken_of_notMem hc, inToken_of_mem hd]
    constructor
    · rintro rfl
      exact absurd hunderscore hc
    · rintro (rfl | ⟨hc', -⟩)
      · exact absurd hd hc
      · exact absurd hc' hc
  · simp [Confusable, inToken_of_notMem, hc, hd]

/-! ## Tokens -/

/-- Two tokens are the same exactly if what is left of the paths is confusable throughout. -/
theorem token_eq_iff {p q : String} : token p = token q ↔
    List.Forall₂ Confusable (Text.eraseFirst ending p.toList)
      (Text.eraseFirst ending q.toList) := by
  have htoken : ∀ path, token path
      = String.ofList ((Text.eraseFirst ending path.toList).map inToken) ++ generatedEnding :=
    fun _ => rfl
  rw [htoken, htoken, String.append_left_inj, String.ofList_inj, ← List.forall₂_eq_eq_eq,
    List.forall₂_map_left_iff, List.forall₂_map_right_iff]
  simp only [inToken_eq_iff]

/-- A path is its stem and `.proto`, which occurs nowhere else in it. -/
def HasStem (path stem : String) : Prop :=
  path = stem ++ ".proto" ∧ ∀ before after, path = before ++ ".proto" ++ after → after = ""

theorem hasStem_iff_chars {path stem : String} : HasStem path stem ↔
    path.toList = stem.toList ++ ending ∧
      ∀ before after, path.toList = before ++ ending ++ after → after = [] := by
  refine and_congr ?_ ⟨?_, ?_⟩
  · rw [← String.toList_inj, String.toList_append]
    rfl
  · intro h before after hcut
    have hpath : path = String.ofList before ++ ".proto" ++ String.ofList after := by
      apply String.toList_inj.mp
      rw [String.toList_append, String.toList_append, @String.toList_ofList before,
        @String.toList_ofList after]
      exact hcut
    exact String.ofList_eq_empty_iff.mp (h _ _ hpath)
  · rintro h before after rfl
    rw [String.toList_append, String.toList_append] at h
    exact String.toList_eq_nil_iff.mp (h before.toList after.toList rfl)

theorem HasStem.eraseFirst_eq {path stem : String} (h : HasStem path stem) :
    Text.eraseFirst ending path.toList = stem.toList := by
  obtain ⟨hpath, honce⟩ := hasStem_iff_chars.mp h
  rw [hpath] at honce ⊢
  rw [← List.append_nil (stem.toList ++ ending), Text.eraseFirst_append (by decide),
    List.append_nil]
  intro a b hcut
  rw [List.append_nil] at hcut
  rw [honce a b hcut, List.append_nil] at hcut
  exact Nat.le_of_eq (congrArg List.length (List.append_cancel_right hcut))

/-- It is enough to look for `.proto` at every place before the last. -/
theorem hasStem_iff {path stem : String} : HasStem path stem ↔
    path = stem ++ ".proto" ∧
      ∀ i < stem.length, ¬ ending.isPrefixOf (path.toList.drop i) = true := by
  rw [hasStem_iff_chars, ← String.toList_inj, String.toList_append]
  refine and_congr_right fun hpath => ?_
  rw [← String.length_toList, hpath]
  constructor
  · intro honce i hi hfound
    obtain ⟨after, hafter⟩ := List.isPrefixOf_iff_prefix.mp hfound
    have hcut : stem.toList ++ ending = (stem.toList ++ ending).take i ++ ending ++ after := by
      rw [List.append_assoc, hafter, List.take_append_drop]
    rw [honce _ after hcut, List.append_nil] at hcut
    have hlength := congrArg List.length (List.append_cancel_right hcut)
    rw [List.length_take] at hlength
    omega
  · intro hnone before after hcut
    have hlate : stem.toList.length ≤ before.length := by
      refine Nat.le_of_not_lt fun hlt => hnone before.length hlt ?_
      rw [hcut, List.append_assoc, List.drop_left]
      exact List.isPrefixOf_iff_prefix.mpr (List.prefix_append ending after)
    have hlength := congrArg List.length hcut
    rw [List.length_append, List.length_append, List.length_append] at hlength
    exact List.eq_nil_of_length_eq_zero (by omega)

instance (path stem : String) : Decidable (HasStem path stem) := decidable_of_iff' _ hasStem_iff

theorem forall₂_confusable_iff {s t : String} : List.Forall₂ Confusable s.toList t.toList ↔
    s.length = t.length ∧ ∀ (i : Nat) (c d : Char),
      s.toList[i]? = some c → t.toList[i]? = some d → Confusable c d := by
  rw [List.forall₂_iff_get, ← String.length_toList, ← String.length_toList]
  refine and_congr_right fun _ => ⟨?_, ?_⟩
  · intro h i c d hc hd
    obtain ⟨hi, rfl⟩ := List.getElem?_eq_some_iff.mp hc
    obtain ⟨hi', rfl⟩ := List.getElem?_eq_some_iff.mp hd
    exact h i hi hi'
  · intro h i hi hi'
    exact h i _ _ (List.getElem?_eq_getElem hi) (List.getElem?_eq_getElem hi')

/-- No token holds a separator, so that a text which begins with a token and a dot begins with no
other token and a dot.  Of two paths that are a stem and `.proto`, the tokens are the same exactly
if the stems differ at most in which separator or underscore stands where. -/
theorem tokens_collide_iff (p q : String) :
    (∀ c ∈ (token p).toList, c ≠ '/' ∧ c ≠ '.' ∧ c ≠ '-') ∧
    (∀ r : String, (token q ++ ".").toList <+: (token p ++ "." ++ r).toList ↔ token p = token q) ∧
    (∀ (type : TypeExpr) (r : String), type.text = token p ++ "." ++ r →
      (type.startsIn (token q) = true ↔ token p = token q)) ∧
    ∀ stem stem' : String, HasStem p stem → HasStem q stem' →
      (token p = token q ↔ stem.length = stem'.length ∧ ∀ (i : Nat) (c d : Char),
        stem.toList[i]? = some c → stem'.toList[i]? = some d → Confusable c d) := by
  have hstarts : ∀ r : String,
      (token q ++ ".").toList.isPrefixOf (token p ++ "." ++ r).toList = true ↔ token p = token q :=
    TypeExpr.startsIn_reference p q
  refine ⟨?_, ?_, ?_, ?_⟩
  · intro c hc
    have hnone := isSeparator_of_mem_token hc
    simpa [isSeparator, and_assoc] using hnone
  · intro r
    rw [← List.isPrefixOf_iff_prefix, hstarts]
  · intro type r htext
    rw [TypeExpr.startsIn, htext, hstarts]
  · intro stem stem' hstem hstem'
    rw [token_eq_iff, hstem.eraseFirst_eq, hstem'.eraseFirst_eq]
    exact forall₂_confusable_iff

theorem tokens_collide_iff_user_service :
    HasStem "api/v1.2/user-service.proto" "api/v1.2/user-service" ∧
    HasStem "api.v1_2/user_service.proto" "api.v1_2/user_service" ∧
    HasStem "api/v1.2/user-services.proto" "api/v1.2/user-services" ∧
    token "api/v1.2/user-service.proto" = token "api.v1_2/user_service.proto" ∧
    token "api/v1.2/user-service.proto" ≠ token "api/v1.2/user-services.proto" := by
  have hstem : HasStem "api/v1.2/user-service.proto" "api/v1.2/user-service" := by decide
  have hstem' : HasStem "api.v1_2/user_service.proto" "api.v1_2/user_service" := by decide
  have hlonger : HasStem "api/v1.2/user-services.proto" "api/v1.2/user-services" := by decide
  refine ⟨hstem, hstem', hlonger, ?_, ?_⟩
  · refine ((tokens_collide_iff _ _).2.2.2 _ _ hstem hstem').mpr ?_
    rw [← forall₂_confusable_iff]
    decide
  · intro hsame
    have hlength := (((tokens_collide_iff _ _).2.2.2 _ _ hstem hlonger).mp hsame).1
    exact absurd hlength (by decide)

end SchemaPath

end RpcStubs
