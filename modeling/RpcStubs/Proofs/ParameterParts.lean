/-
# What the parts of a parameter mean together

A parameter is read part by part, and each part is judged alone: it means an
assignment, or nothing, or it offends.  `Means` and `Offends` say which, in
terms of the text: the key stands before the first equals sign, the value behind
it, and the white space around either does not count.

From there on no text matters.  If every part has a meaning, the last assignment
of each kind is the one that holds, so parts with different keys may change
places; otherwise the first part that offends names the error.  One parameter
behind another is then read as the second one laid over the first.
-/
import Mathlib.Data.List.Forall2
import Mathlib.Data.List.TakeWhile
import RpcStubs.Proofs.Pieces
import RpcStubs.Settings

namespace RpcStubs

/-! ## Trimming and cutting, said without the functions that do it -/

namespace Text

/-- White space and nothing else. -/
def Blank (cs : List Char) : Prop :=
  ∀ c ∈ cs, isBlank c = true

/-- A word stands in a text with white space around it, and has none at its own ends. -/
structure TrimsTo (cs word : List Char) : Prop where
  around : ∃ before after, cs = before ++ (word ++ after) ∧ Blank before ∧ Blank after
  first : ∀ c ∈ word.head?, isBlank c = false
  last : ∀ c ∈ word.getLast?, isBlank c = false

theorem trimChars_eq_self {cs : List Char} (hfirst : ∀ c ∈ cs.head?, isBlank c = false)
    (hlast : ∀ c ∈ cs.getLast?, isBlank c = false) : trimChars cs = cs := by
  have hkeep : ∀ ds : List Char, (∀ c ∈ ds.head?, isBlank c = false) →
      ds.dropWhile isBlank = ds := by
    intro ds hds
    cases ds with
    | nil => rfl
    | cons d ds => rw [List.dropWhile_cons, hds d rfl]; rfl
  rw [trimChars, hkeep cs hfirst, hkeep cs.reverse (by simpa using hlast), List.reverse_reverse]

theorem Blank.dropWhile_eq_nil {cs : List Char} (h : Blank cs) : cs.dropWhile isBlank = [] :=
  List.dropWhile_eq_nil_iff.mpr h

theorem trimChars_append_left {before : List Char} (h : Blank before) (cs : List Char) :
    trimChars (before ++ cs) = trimChars cs := by
  rw [trimChars, List.dropWhile_append_of_pos h, trimChars]

theorem trimChars_append_right {after : List Char} (h : Blank after) (cs : List Char) :
    trimChars (cs ++ after) = trimChars cs := by
  rw [trimChars, trimChars, List.dropWhile_append]
  split
  next hempty => rw [List.isEmpty_iff.mp hempty, h.dropWhile_eq_nil]
  next =>
    have hreverse : ∀ c ∈ after.reverse, isBlank c = true :=
      fun c hc => h c (List.mem_reverse.mp hc)
    rw [List.reverse_append, List.dropWhile_append_of_pos hreverse]

theorem TrimsTo.trimChars_eq {cs word : List Char} (h : TrimsTo cs word) : trimChars cs = word := by
  obtain ⟨before, after, rfl, hbefore, hafter⟩ := h.around
  rw [trimChars_append_left hbefore, trimChars_append_right hafter,
    trimChars_eq_self h.first h.last]

theorem isBlank_of_mem_head?_dropWhile (cs : List Char) {c : Char}
    (h : c ∈ (cs.dropWhile isBlank).head?) : isBlank c = false := by
  have hstop := List.head?_dropWhile_not isBlank cs
  rw [Option.mem_def.mp h] at hstop
  exact hstop

theorem trimsTo_trimChars (cs : List Char) : TrimsTo cs (trimChars cs) := by
  -- what is left of the text at its front, and of that at its back
  have hfront := List.takeWhile_append_dropWhile (p := isBlank) (l := cs)
  generalize hrest : cs.dropWhile isBlank = rest at hfront
  have hback := List.takeWhile_append_dropWhile (p := isBlank) (l := rest.reverse)
  have htrim : trimChars cs = (rest.reverse.dropWhile isBlank).reverse := by rw [trimChars, hrest]
  have hsplit : rest = trimChars cs ++ (rest.reverse.takeWhile isBlank).reverse := by
    rw [htrim, ← List.reverse_append, hback, List.reverse_reverse]
  refine ⟨⟨cs.takeWhile isBlank, (rest.reverse.takeWhile isBlank).reverse, ?_, ?_, ?_⟩, ?_, ?_⟩
  · rw [← hsplit, hfront]
  · exact fun c hc => List.mem_takeWhile_imp hc
  · exact fun c hc => List.mem_takeWhile_imp (List.mem_reverse.mp hc)
  · intro c hc
    refine isBlank_of_mem_head?_dropWhile cs ?_
    rw [hrest, hsplit, Option.mem_def, List.head?_append, Option.mem_def.mp hc]
    rfl
  · intro c hc
    rw [htrim, List.getLast?_reverse] at hc
    exact isBlank_of_mem_head?_dropWhile _ hc

theorem trimsTo_iff {cs word : List Char} : TrimsTo cs word ↔ trimChars cs = word :=
  ⟨TrimsTo.trimChars_eq, fun h => h ▸ trimsTo_trimChars cs⟩

theorem trimChars_eq_nil_iff {cs : List Char} : trimChars cs = [] ↔ Blank cs := by
  constructor
  · intro h
    obtain ⟨before, after, rfl, hbefore, hafter⟩ := (trimsTo_iff.mpr h).around
    exact fun c hc => (List.mem_append.mp hc).elim (hbefore c) (hafter c)
  · intro h
    exact trimsTo_iff.mp ⟨⟨cs, [], by simp, h, by simp [Blank]⟩, by simp, by simp⟩

/-- A text is cut at the first separator.  Without one there is nothing behind it. -/
def CutsAt (separator : Char) (cs before after : List Char) : Prop :=
  separator ∉ before ∧ (cs = before ++ separator :: after ∨ cs = before ∧ after = [])

theorem cutsAt_iff {separator : Char} {cs before after : List Char} :
    CutsAt separator cs before after ↔ cut separator cs = (before, after) := by
  constructor
  · rintro ⟨hbefore, hcs⟩
    have hpass : ∀ c ∈ before, decide (c ≠ separator) = true :=
      fun c hc => decide_eq_true fun heq => hbefore (heq ▸ hc)
    rcases hcs with rfl | ⟨rfl, rfl⟩
    · rw [cut, List.takeWhile_append_of_pos hpass, List.dropWhile_append_of_pos hpass]
      simp
    · rw [cut, List.takeWhile_eq_self_iff.mpr hpass, List.dropWhile_eq_nil_iff.mpr hpass]
      rfl
  · intro h
    obtain ⟨rfl, rfl⟩ := Prod.mk.inj h
    refine ⟨fun hmem => absurd (List.mem_takeWhile_imp hmem) (by simp), ?_⟩
    have hboth := List.takeWhile_append_dropWhile (p := (decide <| · ≠ separator)) (l := cs)
    cases hrest : cs.dropWhile (decide <| · ≠ separator) with
    | nil =>
        rw [hrest, List.append_nil] at hboth
        exact .inr ⟨hboth.symm, rfl⟩
    | cons d rest =>
        have hstop := List.head?_dropWhile_not (decide <| · ≠ separator) cs
        rw [hrest] at hstop hboth
        obtain rfl : d = separator := by simpa using hstop
        exact .inl hboth.symm

/-- The pieces of a text: put together with separators they give the text, and none of them holds
one. -/
structure CutsInto (separator : Char) (cs : List Char) (parts : List (List Char)) : Prop where
  ne_nil : parts ≠ []
  notMem : ∀ part ∈ parts, separator ∉ part
  joined : [separator].intercalate parts = cs

theorem cutsInto_iff {separator : Char} {cs : List Char} {parts : List (List Char)} :
    CutsInto separator cs parts ↔ pieces separator cs = parts := by
  constructor
  · rintro ⟨hne, hnot, rfl⟩
    exact pieces_intercalate hne hnot
  · rintro rfl
    refine ⟨?_, fun part => notMem_of_mem_pieces, intercalate_pieces separator cs⟩
    intro hnil
    have hlength := length_pieces separator cs
    rw [hnil] at hlength
    exact absurd hlength (Nat.zero_ne_add_one _)

end Text

namespace Settings

open Text

/-! ## One part -/

/-- A part names a key and gives it a value. -/
def Keyed (part : List Char) (key : String) (value : List Char) : Prop :=
  ∃ before, CutsAt '=' part before value ∧ TrimsTo before key.toList

/-- Words for a switch that is on, and for one that is off. -/
def switchWords : Bool → List String
  | true => ["", "1", "true", "yes"]
  | false => ["0", "false", "no"]

/-- A value is a word for a switch. -/
def Switches (value : List Char) (emit : Bool) : Prop :=
  ∃ word, TrimsTo value word ∧ lower (String.ofList word) ∈ switchWords emit

/-- The key that an assignment belongs to. -/
def Assignment.key : Assignment → String
  | .messages _ => "messages"
  | .package _ => "wkt_package"

/-- What a part means. -/
inductive Means (part : List Char) : Option Assignment → Prop
  | nothing : Blank part → Means part none
  | messages {value : List Char} {emit : Bool} :
      Keyed part "messages" value → Switches value emit → Means part (some (.messages emit))
  | package {value : List Char} {name : String} :
      Keyed part "wkt_package" value → TrimsTo value name.toList → name ≠ "" →
        Means part (some (.package name))

/-- Why a part means nothing that can be set. -/
inductive Offends (part : List Char) : GenerationError → Prop
  | notSwitch {value : List Char} :
      Keyed part "messages" value → (∀ emit, ¬ Switches value emit) →
        Offends part (.invalidBoolean "messages" value)
  | noPackage {value : List Char} :
      Keyed part "wkt_package" value → Blank value → Offends part .missingPackage
  | unknown {key : String} {value : List Char} :
      ¬ Blank part → Keyed part key value → key ≠ "messages" → key ≠ "wkt_package" →
        Offends part (.unknownParameter key)

variable {part : List Char} {key : String} {value : List Char}

theorem keyed_iff :
    Keyed part key value ↔
      String.ofList (trimChars (cut '=' part).1) = key ∧ (cut '=' part).2 = value := by
  constructor
  · rintro ⟨before, hcut, htrim⟩
    rw [cutsAt_iff.mp hcut]
    exact ⟨by rw [htrim.trimChars_eq, String.ofList_toList], rfl⟩
  · rintro ⟨rfl, rfl⟩
    exact ⟨(cut '=' part).1, cutsAt_iff.mpr rfl, by
      rw [String.toList_ofList]
      exact trimsTo_trimChars _⟩

theorem Keyed.not_blank (h : Keyed part key value) (hkey : key ≠ "") : ¬ Blank part := by
  intro hblank
  obtain ⟨before, ⟨-, hpart⟩, htrim⟩ := h
  have hbefore : Blank before := by
    rcases hpart with rfl | ⟨rfl, -⟩
    · exact fun c hc => hblank c (List.mem_append_left _ hc)
    · exact hblank
  have hnil : key.toList = [] := htrim.trimChars_eq.symm.trans (trimChars_eq_nil_iff.mpr hbefore)
  exact hkey (String.toList_eq_nil_iff.mp hnil)

theorem switches_iff {emit : Bool} :
    Switches value emit ↔ lower (String.ofList (trimChars value)) ∈ switchWords emit := by
  constructor
  · rintro ⟨word, htrim, hword⟩
    rwa [htrim.trimChars_eq]
  · exact fun h => ⟨trimChars value, trimsTo_trimChars value, h⟩

theorem readSwitch_eq (key : String) (value : List Char) :
    readSwitch key value =
      if lower (String.ofList (trimChars value)) ∈ switchWords true then .ok true
      else if lower (String.ofList (trimChars value)) ∈ switchWords false then .ok false
      else .error (.invalidBoolean key value) := rfl

theorem readSwitch_of_switches {emit : Bool} (h : Switches value emit) :
    readSwitch key value = .ok emit := by
  rw [readSwitch_eq]
  have hword := switches_iff.mp h
  cases emit with
  | true => rw [if_pos hword]
  | false =>
      have hdisjoint : ∀ word ∈ switchWords false, word ∉ switchWords true := by decide
      rw [if_neg (hdisjoint _ hword), if_pos hword]

theorem readSwitch_of_not_switches (h : ∀ emit, ¬ Switches value emit) :
    readSwitch key value = .error (.invalidBoolean key value) := by
  rw [readSwitch_eq, if_neg (mt switches_iff.mpr (h true)), if_neg (mt switches_iff.mpr (h false))]

theorem readPart_of_keyed (hblank : ¬ Blank part) (h : Keyed part key value) :
    readPart part =
      if key = "messages" then (fun emit => some (.messages emit)) <$> readSwitch key value
      else if key = "wkt_package" then
        match trimChars value with
        | [] => .error .missingPackage
        | name => .ok (some (.package (String.ofList name)))
      else .error (.unknownParameter key) := by
  have hnil : ¬ (trimChars part).isEmpty = true := by
    rwa [List.isEmpty_iff, trimChars_eq_nil_iff]
  obtain ⟨rfl, rfl⟩ := keyed_iff.mp h
  exact if_neg hnil

theorem Means.readPart_eq {meaning : Option Assignment} (h : Means part meaning) :
    readPart part = .ok meaning := by
  cases h with
  | nothing hblank => exact if_pos (List.isEmpty_iff.mpr (trimChars_eq_nil_iff.mpr hblank))
  | messages hkeyed hswitch =>
      rw [readPart_of_keyed (hkeyed.not_blank (by decide)) hkeyed, if_pos rfl,
        readSwitch_of_switches hswitch]
      rfl
  | @package value name hkeyed htrim hname =>
      rw [readPart_of_keyed (hkeyed.not_blank (by decide)) hkeyed, if_neg (by decide), if_pos rfl,
        htrim.trimChars_eq]
      cases hchars : name.toList with
      | nil => exact absurd (String.toList_eq_nil_iff.mp hchars) hname
      | cons c cs =>
          show Except.ok (some (Assignment.package (String.ofList (c :: cs)))) = _
          rw [← hchars, String.ofList_toList]

theorem Offends.readPart_eq {error : GenerationError} (h : Offends part error) :
    readPart part = .error error := by
  cases h with
  | notSwitch hkeyed hswitch =>
      rw [readPart_of_keyed (hkeyed.not_blank (by decide)) hkeyed, if_pos rfl,
        readSwitch_of_not_switches hswitch]
      rfl
  | noPackage hkeyed hblank =>
      rw [readPart_of_keyed (hkeyed.not_blank (by decide)) hkeyed, if_neg (by decide), if_pos rfl,
        trimChars_eq_nil_iff.mpr hblank]
  | unknown hblank hkeyed hmessages hpackage =>
      rw [readPart_of_keyed hblank hkeyed, if_neg hmessages, if_neg hpackage]

theorem means_or_offends (part : List Char) :
    (∃ meaning, Means part meaning) ∨ ∃ error, Offends part error := by
  by_cases hblank : Blank part
  · exact .inl ⟨none, .nothing hblank⟩
  obtain ⟨key, value, hkeyed⟩ : ∃ key value, Keyed part key value :=
    ⟨_, _, keyed_iff.mpr ⟨rfl, rfl⟩⟩
  by_cases hmessages : key = "messages"
  · subst hmessages
    by_cases hswitch : ∃ emit, Switches value emit
    · obtain ⟨emit, hemit⟩ := hswitch
      exact .inl ⟨_, .messages hkeyed hemit⟩
    · exact .inr ⟨_, .notSwitch hkeyed (not_exists.mp hswitch)⟩
  by_cases hpackage : key = "wkt_package"
  · subst hpackage
    by_cases hvalue : Blank value
    · exact .inr ⟨_, .noPackage hkeyed hvalue⟩
    · have htrim : TrimsTo value (String.ofList (trimChars value)).toList := by
        rw [String.toList_ofList]
        exact trimsTo_trimChars value
      refine .inl ⟨_, .package hkeyed htrim fun hempty => hvalue (trimChars_eq_nil_iff.mp ?_)⟩
      rw [htrim.trimChars_eq, hempty, String.toList_empty]
  exact .inr ⟨_, .unknown hblank hkeyed hmessages hpackage⟩

theorem readPart_eq_ok_iff {meaning : Option Assignment} :
    readPart part = .ok meaning ↔ Means part meaning := by
  refine ⟨fun h => ?_, Means.readPart_eq⟩
  rcases means_or_offends part with ⟨other, hother⟩ | ⟨error, herror⟩
  · obtain rfl : other = meaning := Except.ok.inj (hother.readPart_eq.symm.trans h)
    exact hother
  · exact absurd (herror.readPart_eq.symm.trans h) (by simp)

/-! ## One part after another -/

variable {s t : Settings} {parts : List (List Char)} {error : GenerationError}

/-- The settings with what a part means put in force. -/
def adopt (s : Settings) (meaning : Option Assignment) : Settings :=
  meaning.elim s s.assign

theorem applyPart_eq_map (s : Settings) (part : List Char) :
    s.applyPart part = s.adopt <$> readPart part := by
  rw [applyPart]
  rcases readPart part with error | _ | assignment <;> rfl

theorem applyPart_of_means {meaning : Option Assignment} (h : Means part meaning) :
    s.applyPart part = .ok (s.adopt meaning) := by
  rw [applyPart_eq_map, h.readPart_eq]
  rfl

theorem applyPart_of_offends (h : Offends part error) : s.applyPart part = .error error := by
  rw [applyPart_eq_map, h.readPart_eq]
  rfl

theorem foldlM_applyPart_of_means {meanings : List (Option Assignment)}
    (h : List.Forall₂ Means parts meanings) (s : Settings) :
    parts.foldlM applyPart s = .ok (meanings.foldl adopt s) := by
  induction h generalizing s with
  | nil => rfl
  | cons hmeans _ ih =>
      rw [List.foldlM_cons, applyPart_of_means hmeans]
      exact ih _

theorem foldlM_applyPart_of_offends {before after : List (List Char)}
    (hbefore : ∀ earlier ∈ before, ∃ meaning, Means earlier meaning) (hoffends : Offends part error)
    (s : Settings) : (before ++ part :: after).foldlM applyPart s = .error error := by
  induction before generalizing s with
  | nil =>
      rw [List.nil_append, List.foldlM_cons, applyPart_of_offends hoffends]
      rfl
  | cons earlier before ih =>
      obtain ⟨⟨meaning, hmeans⟩, hbefore⟩ := List.forall_mem_cons.mp hbefore
      rw [List.cons_append, List.foldlM_cons, applyPart_of_means hmeans]
      exact ih hbefore _

/-- Either every part has a meaning, or one of them is the first to offend. -/
theorem means_or_first_offends (parts : List (List Char)) :
    (∃ meanings, List.Forall₂ Means parts meanings) ∨
      ∃ before part after error, parts = before ++ part :: after ∧
        (∀ earlier ∈ before, ∃ meaning, Means earlier meaning) ∧ Offends part error := by
  induction parts with
  | nil => exact .inl ⟨[], .nil⟩
  | cons part parts ih =>
      rcases means_or_offends part with ⟨meaning, hmeans⟩ | ⟨error, hoffends⟩
      · rcases ih with ⟨meanings, hrest⟩ | ⟨before, culprit, after, error, rfl, hbefore, hoffends⟩
        · exact .inl ⟨meaning :: meanings, .cons hmeans hrest⟩
        · exact .inr ⟨part :: before, culprit, after, error, rfl,
            List.forall_mem_cons.mpr ⟨⟨meaning, hmeans⟩, hbefore⟩, hoffends⟩
      · exact .inr ⟨[], part, parts, error, rfl, List.forall_mem_nil _, hoffends⟩

theorem foldlM_applyPart_eq_ok_iff :
    parts.foldlM applyPart s = .ok t ↔
      ∃ meanings, List.Forall₂ Means parts meanings ∧ meanings.foldl adopt s = t := by
  constructor
  · intro h
    rcases means_or_first_offends parts with ⟨meanings, hall⟩ | ⟨_, _, _, _, rfl, hbefore, hoffends⟩
    · exact ⟨meanings, hall, Except.ok.inj ((foldlM_applyPart_of_means hall s).symm.trans h)⟩
    · exact absurd ((foldlM_applyPart_of_offends hbefore hoffends s).symm.trans h) (by simp)
  · rintro ⟨meanings, hall, rfl⟩
    exact foldlM_applyPart_of_means hall s

theorem foldlM_applyPart_eq_error_iff :
    parts.foldlM applyPart s = .error error ↔
      ∃ before part after, parts = before ++ part :: after ∧
        (∀ earlier ∈ before, ∃ meaning, Means earlier meaning) ∧ Offends part error := by
  constructor
  · intro h
    rcases means_or_first_offends parts with
      ⟨meanings, hall⟩ | ⟨before, part, after, other, rfl, hbefore, hoffends⟩
    · exact absurd ((foldlM_applyPart_of_means hall s).symm.trans h) (by simp)
    · obtain rfl : other = error :=
        Except.error.inj ((foldlM_applyPart_of_offends hbefore hoffends s).symm.trans h)
      exact ⟨before, part, after, rfl, hbefore, hoffends⟩
  · rintro ⟨before, part, after, rfl, hbefore, hoffends⟩
    exact foldlM_applyPart_of_offends hbefore hoffends s

/-! ## The last assignment of each kind -/

/-- The switch that an assignment sets, if it sets that. -/
def Assignment.messages? : Assignment → Option Bool
  | .messages emit => some emit
  | .package _ => none

/-- The package that an assignment names, if it names one. -/
def Assignment.package? : Assignment → Option String
  | .messages _ => none
  | .package name => some name

/-- What has been chosen, of the two things that can be. -/
structure Choice where
  messages : Option Bool
  package : Option String

namespace Choice

/-- What a list of meanings chooses: the last of each kind. -/
def ofMeanings (meanings : List (Option Assignment)) : Choice where
  messages := (meanings.filterMap (·.bind Assignment.messages?)).getLast?
  package := (meanings.filterMap (·.bind Assignment.package?)).getLast?

/-- One choice laid over another, which shows where the first leaves something open. -/
def overlay (later earlier : Choice) : Choice where
  messages := later.messages.or earlier.messages
  package := later.package.or earlier.package

/-- The settings that a choice leads to: what it leaves open is the default. -/
def settings (choice : Choice) : Settings where
  emitMessages := choice.messages.getD true
  wellKnown := WellKnown.table (choice.package.getD WellKnown.defaultPackage)

theorem overlay_assoc (a b c : Choice) : a.overlay (b.overlay c) = (a.overlay b).overlay c := by
  simp only [overlay, Option.or_assoc]

theorem overlay_open (choice : Choice) : choice.overlay ⟨none, none⟩ = choice := by
  simp only [overlay, Option.or_none]

theorem ofMeanings_append (earlier later : List (Option Assignment)) :
    ofMeanings (earlier ++ later) = (ofMeanings later).overlay (ofMeanings earlier) := by
  simp only [ofMeanings, overlay, List.filterMap_append, List.getLast?_append]

theorem adopt_settings (choice : Choice) (meaning : Option Assignment) :
    choice.settings.adopt meaning = ((ofMeanings [meaning]).overlay choice).settings := by
  rcases meaning with _ | _ | _ <;> rfl

theorem foldl_adopt_settings (meanings : List (Option Assignment)) (choice : Choice) :
    meanings.foldl adopt choice.settings = ((ofMeanings meanings).overlay choice).settings := by
  induction meanings generalizing choice with
  | nil => rfl
  | cons meaning meanings ih =>
      rw [List.foldl_cons, adopt_settings, ih, overlay_assoc, ← ofMeanings_append,
        List.singleton_append]

end Choice

/-! ## Parts that change places -/

theorem Keyed.key_unique {other : String} {value' : List Char} (h : Keyed part key value)
    (h' : Keyed part other value') : key = other :=
  (keyed_iff.mp h).1.symm.trans (keyed_iff.mp h').1

theorem Means.key_eq {assignment : Assignment} (h : Means part (some assignment))
    (hkeyed : Keyed part key value) : assignment.key = key := by
  cases h with
  | messages hmessages _ => exact hmessages.key_unique hkeyed
  | package hpackage _ _ => exact hpackage.key_unique hkeyed

theorem adopt_comm {first second : Option Assignment}
    (h : ∀ a ∈ first, ∀ b ∈ second, a.key ≠ b.key) (s : Settings) :
    (s.adopt first).adopt second = (s.adopt second).adopt first := by
  rcases first with _ | a
  · rfl
  rcases second with _ | b
  · rfl
  have hkey : a.key ≠ b.key := h a rfl b rfl
  cases a <;> cases b
  case messages.messages => exact absurd rfl hkey
  case package.package => exact absurd rfl hkey
  all_goals rfl

/-- Two lists of parts, alike but for two neighbours with different keys that change places. -/
inductive Swapped : List (List Char) → List (List Char) → Prop
  | neighbours {before after : List (List Char)} {a b : List Char} {key key' : String}
      {value value' : List Char} : Keyed a key value → Keyed b key' value' → key ≠ key' →
        Swapped (before ++ a :: b :: after) (before ++ b :: a :: after)

theorem Swapped.symm {ps qs : List (List Char)} (h : Swapped ps qs) : Swapped qs ps := by
  obtain ⟨ha, hb, hne⟩ := h
  exact ⟨hb, ha, hne.symm⟩

theorem Swapped.foldlM_eq_ok {ps qs : List (List Char)} (h : Swapped ps qs)
    (hok : ps.foldlM applyPart s = .ok t) : qs.foldlM applyPart s = .ok t := by
  obtain @⟨before, after, a, b, key, key', value, value', hkeyedA, hkeyedB, hne⟩ := h
  rw [List.foldlM_append] at hok ⊢
  cases hread : before.foldlM applyPart s with
  | error error =>
      rw [hread] at hok
      cases hok
  | ok u =>
      rw [hread] at hok
      obtain ⟨meanings, hall, rfl⟩ := foldlM_applyPart_eq_ok_iff.mp hok
      rcases hall with _ | ⟨hmeansA, _ | ⟨hmeansB, hrest⟩⟩
      refine foldlM_applyPart_eq_ok_iff.mpr ⟨_, .cons hmeansB (.cons hmeansA hrest), ?_⟩
      have hkeys : ∀ x, Means a (some x) → ∀ y, Means b (some y) → x.key ≠ y.key := by
        intro x hx y hy
        rwa [hx.key_eq hkeyedA, hy.key_eq hkeyedB]
      simp only [List.foldl_cons]
      rw [adopt_comm fun y hy x hx => (hkeys x (hx ▸ hmeansA) y (hy ▸ hmeansB)).symm]

/-! ## Parameters -/

/-- Every part of a parameter has a meaning, and together they choose something. -/
def Chooses (parameter : String) (choice : Choice) : Prop :=
  ∃ parts meanings, CutsInto ',' parameter.toList parts ∧ List.Forall₂ Means parts meanings ∧
    Choice.ofMeanings meanings = choice

/-- The first part of a parameter that has no meaning offends in this way. -/
def FirstOffence (parameter : String) (error : GenerationError) : Prop :=
  ∃ before part after, CutsInto ',' parameter.toList (before ++ part :: after) ∧
    (∀ earlier ∈ before, ∃ meaning, Means earlier meaning) ∧ Offends part error

variable {p q : String}

theorem ofParameter_eq_ok_iff :
    ofParameter p = .ok s ↔ ∃ choice, Chooses p choice ∧ choice.settings = s := by
  have hstart : ({} : Settings) = Choice.settings ⟨none, none⟩ := rfl
  rw [ofParameter, foldlM_applyPart_eq_ok_iff, hstart]
  simp only [Choice.foldl_adopt_settings, Choice.overlay_open]
  constructor
  · rintro ⟨meanings, hall, rfl⟩
    exact ⟨_, ⟨_, meanings, cutsInto_iff.mpr rfl, hall, rfl⟩, rfl⟩
  · rintro ⟨_, ⟨parts, meanings, hparts, hall, rfl⟩, rfl⟩
    exact ⟨meanings, cutsInto_iff.mp hparts ▸ hall, rfl⟩

theorem ofParameter_eq_error_iff : ofParameter p = .error error ↔ FirstOffence p error := by
  rw [ofParameter, foldlM_applyPart_eq_error_iff]
  simp only [FirstOffence, cutsInto_iff]

theorem ofParameter_of_swapped {ps qs : List (List Char)} (hp : CutsInto ',' p.toList ps)
    (hq : CutsInto ',' q.toList qs) (h : Swapped ps qs) :
    ofParameter p = .ok s ↔ ofParameter q = .ok s := by
  rw [ofParameter, ofParameter, cutsInto_iff.mp hp, cutsInto_iff.mp hq]
  exact ⟨h.foldlM_eq_ok, h.symm.foldlM_eq_ok⟩

theorem cutsInto_comma {ps qs : List (List Char)} (hp : CutsInto ',' p.toList ps)
    (hq : CutsInto ',' q.toList qs) : CutsInto ',' (p ++ "," ++ q).toList (ps ++ qs) := by
  rw [cutsInto_iff] at hp hq ⊢
  have hjoined : (p ++ "," ++ q).toList = p.toList ++ ',' :: q.toList := by simp
  rw [hjoined, pieces_append_cons, hp, hq]

theorem Chooses.comma {c d : Choice} (hp : Chooses p c) (hq : Chooses q d) :
    Chooses (p ++ "," ++ q) (d.overlay c) := by
  obtain ⟨ps, ms, hps, hms, rfl⟩ := hp
  obtain ⟨qs, ns, hqs, hns, rfl⟩ := hq
  exact ⟨ps ++ qs, ms ++ ns, cutsInto_comma hps hqs, List.rel_append hms hns,
    Choice.ofMeanings_append ms ns⟩

theorem FirstOffence.comma (hp : FirstOffence p error) (q : String) :
    FirstOffence (p ++ "," ++ q) error := by
  obtain ⟨before, part, after, hps, hbefore, hoffends⟩ := hp
  refine ⟨before, part, after ++ pieces ',' q.toList, ?_, hbefore, hoffends⟩
  have hboth := cutsInto_comma hps (cutsInto_iff.mpr (rfl : pieces ',' q.toList = _))
  rwa [List.append_assoc, List.cons_append] at hboth

theorem exists_means_of_forall₂ {meanings : List (Option Assignment)}
    (h : List.Forall₂ Means parts meanings) : ∀ part ∈ parts, ∃ meaning, Means part meaning := by
  induction h with
  | nil => exact List.forall_mem_nil _
  | cons hmeans _ ih => exact List.forall_mem_cons.mpr ⟨⟨_, hmeans⟩, ih⟩

theorem Chooses.comma_firstOffence {c : Choice} (hp : Chooses p c) (hq : FirstOffence q error) :
    FirstOffence (p ++ "," ++ q) error := by
  obtain ⟨ps, ms, hps, hms, -⟩ := hp
  obtain ⟨before, part, after, hqs, hbefore, hoffends⟩ := hq
  refine ⟨ps ++ before, part, after, ?_, ?_, hoffends⟩
  · rw [List.append_assoc]
    exact cutsInto_comma hps hqs
  · exact List.forall_mem_append.mpr ⟨exists_means_of_forall₂ hms, hbefore⟩

theorem ofParameter_succeeds_iff :
    (∃ s, ofParameter p = .ok s) ↔
      ∃ parts, CutsInto ',' p.toList parts ∧ ∀ part ∈ parts, ∃ meaning, Means part meaning := by
  constructor
  · rintro ⟨s, hs⟩
    obtain ⟨_, ⟨parts, meanings, hparts, hall, -⟩, -⟩ := ofParameter_eq_ok_iff.mp hs
    exact ⟨parts, hparts, exists_means_of_forall₂ hall⟩
  · rintro ⟨parts, hparts, hall⟩
    cases hread : ofParameter p with
    | ok s => exact ⟨s, rfl⟩
    | error error =>
        obtain ⟨before, part, after, hsplit, -, hoffends⟩ := ofParameter_eq_error_iff.mp hread
        obtain rfl : parts = before ++ part :: after :=
          (cutsInto_iff.mp hparts).symm.trans (cutsInto_iff.mp hsplit)
        obtain ⟨meaning, hmeans⟩ := hall part (by simp)
        exact absurd (hmeans.readPart_eq.symm.trans hoffends.readPart_eq) (by simp)

/-- A parameter can be read exactly if each of its parts has a meaning.  Then each thing is set by
the last part that sets it, parts with different keys may change places, and a second parameter
behind a comma is laid over the first.  Otherwise the first part that offends names the error, and
what stands behind it does not count. -/
theorem parameter_read_by_parts (p : String) :
    ((∃ s, ofParameter p = .ok s) ↔
      ∃ parts, CutsInto ',' p.toList parts ∧ ∀ part ∈ parts, ∃ meaning, Means part meaning) ∧
    (∀ s, ofParameter p = .ok s ↔ ∃ choice, Chooses p choice ∧ choice.settings = s) ∧
    (∀ error, ofParameter p = .error error ↔ FirstOffence p error) ∧
    (∀ q ps qs, CutsInto ',' p.toList ps → CutsInto ',' q.toList qs → Swapped ps qs →
      ∀ s, ofParameter p = .ok s ↔ ofParameter q = .ok s) ∧
    ∀ q, (∀ error, ofParameter p = .error error → ofParameter (p ++ "," ++ q) = .error error) ∧
      (∀ s error, ofParameter p = .ok s → ofParameter q = .error error →
        ofParameter (p ++ "," ++ q) = .error error) ∧
      ∀ c d, Chooses p c → Chooses q d →
        ofParameter (p ++ "," ++ q) = .ok (d.overlay c).settings := by
  refine ⟨ofParameter_succeeds_iff, fun _ => ofParameter_eq_ok_iff,
    fun _ => ofParameter_eq_error_iff,
    fun _ _ _ hp hq h _ => ofParameter_of_swapped hp hq h, fun q => ⟨?_, ?_, ?_⟩⟩
  · intro error hp
    exact ofParameter_eq_error_iff.mpr ((ofParameter_eq_error_iff.mp hp).comma q)
  · intro s error hp hq
    obtain ⟨choice, hchooses, -⟩ := ofParameter_eq_ok_iff.mp hp
    exact ofParameter_eq_error_iff.mpr
      (hchooses.comma_firstOffence (ofParameter_eq_error_iff.mp hq))
  · intro c d hp hq
    exact ofParameter_eq_ok_iff.mpr ⟨d.overlay c, hp.comma hq, rfl⟩

/-- The second of two switches holds, the package is trimmed and keeps its equals sign, and the two
settle the same when their parts stand the other way round. -/
theorem parameter_read_by_parts_acme :
    ofParameter "messages=No,messages, wkt_package = @acme/a=b " =
        .ok { emitMessages := true, wellKnown := WellKnown.table "@acme/a=b" } ∧
      ofParameter "messages=No, wkt_package = @acme/a=b ,messages" =
        .ok { emitMessages := true, wellKnown := WellKnown.table "@acme/a=b" } := by
  have hread := parameter_read_by_parts "messages=No,messages, wkt_package = @acme/a=b "
  have hchooses : Chooses "messages=No,messages, wkt_package = @acme/a=b "
      ⟨some true, some "@acme/a=b"⟩ :=
    ⟨_, [some (.messages false), some (.messages true), some (.package "@acme/a=b")],
      cutsInto_iff.mpr rfl, .cons (readPart_eq_ok_iff.mp rfl) (.cons (readPart_eq_ok_iff.mp rfl)
        (.cons (readPart_eq_ok_iff.mp rfl) .nil)), rfl⟩
  have hswitch : Keyed "messages".toList "messages" [] := keyed_iff.mpr ⟨rfl, rfl⟩
  have hpackage : Keyed " wkt_package = @acme/a=b ".toList "wkt_package" " @acme/a=b ".toList :=
    keyed_iff.mpr ⟨rfl, rfl⟩
  have hswapped : Swapped
      (["messages=No".toList] ++ ["messages".toList, " wkt_package = @acme/a=b ".toList])
      (["messages=No".toList] ++ [" wkt_package = @acme/a=b ".toList, "messages".toList]) :=
    .neighbours hswitch hpackage (by decide)
  have hok := (hread.2.1 _).mpr ⟨_, hchooses, rfl⟩
  exact ⟨hok, (hread.2.2.2.1 "messages=No, wkt_package = @acme/a=b ,messages" _ _
    (cutsInto_iff.mpr rfl) (cutsInto_iff.mpr rfl) hswapped _).mp hok⟩

end Settings

end RpcStubs
