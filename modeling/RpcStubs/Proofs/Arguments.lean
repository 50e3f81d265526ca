/-
# What is given as arguments is read back

An option can be given by any of its spellings, with its value as the argument
behind it or behind an equals sign (`Says`); the names of files are a list
behind the option that takes them.  Options stand in any order, and of several
that are the same the last counts.  Read back, such arguments set exactly what
they say (`Options.parse_of_saidBy`).

A value that stands alone may not begin with a dash; one behind an equals sign
may.  Two dashes are left out in both places: alone they are refused, and
readers of arguments do not agree on what they are behind an equals sign.  With
that exception, and as long as no file has a name that begins with a dash,
everything can be said (`Options.saidBy_arguments`).
-/
import Mathlib.Data.List.Forall2
import RpcStubs.CommandLine.Arguments

namespace RpcStubs.CommandLine

/-! ## One argument -/

theorem Switch.named?_eq_none {has : String → Bool} (hspelled : ∀ p ∈ spelled, has p.1 = true)
    {text : String} (h : has text = false) : named? text = none := by
  rw [named?, List.lookup_eq_none_iff]
  intro p hp
  rw [bne_iff_ne]
  rintro rfl
  rw [hspelled p hp] at h
  cases h

section Spelling

variable {s : Switch} {spelling : String}

theorem classify_spelling (h : spelling ∈ s.spellings) :
    ∃ long, classify spelling = .ok (.option s long none) := by
  cases s <;> simp only [Switch.spellings, List.mem_cons, List.not_mem_nil, or_false] at h <;>
    rcases h with rfl | rfl <;> exact ⟨_, rfl⟩

theorem Switch.named?_spelling (h : spelling ∈ s.spellings) : named? spelling = some s := by
  cases s <;> simp only [Switch.spellings, List.mem_cons, List.not_mem_nil, or_false] at h <;>
    rcases h with rfl | rfl <;> rfl

theorem Switch.spelling_ne (h : spelling ∈ s.spellings) : spelling ≠ "--" := by
  rintro rfl
  cases s <;> exact absurd h (by decide)

theorem Switch.ne_help_of_arity (h : s.arity ≠ .none) : s ≠ .help := by
  rintro rfl
  exact h rfl

theorem Switch.spelling_append_ne (spelling text : String) : spelling ++ "=" ++ text ≠ "--" := by
  intro h
  have hmem : '=' ∈ (spelling ++ "=" ++ text).toList := by simp
  rw [h] at hmem
  exact absurd hmem (by decide)

theorem classify_attached (h : spelling ∈ s.spellings) (text : String) :
    ∃ long, classify (spelling ++ "=" ++ text) = .ok (.option s long (some text.toList)) := by
  have hchars : (spelling ++ "=" ++ text).toList = spelling.toList ++ '=' :: text.toList := by
    simp
  have hnone : Switch.named? (spelling ++ "=" ++ text) = none :=
    @Switch.named?_eq_none (fun t => !t.toList.contains '=') (by decide) _ (by simp)
  have hcut : Text.cut '=' (spelling.toList ++ '=' :: text.toList)
      = (spelling.toList, text.toList) := by
    cases s <;> simp only [Switch.spellings, List.mem_cons, List.not_mem_nil, or_false] at h <;>
      rcases h with rfl | rfl <;> rfl
  have hdashed : classify (spelling ++ "=" ++ text)
      = classifyDashed (spelling ++ "=" ++ text) (spelling.toList ++ '=' :: text.toList) := by
    rw [classify, hnone, hchars]
    cases s <;> simp only [Switch.spellings, List.mem_cons, List.not_mem_nil, or_false] at h <;>
      rcases h with rfl | rfl <;> rfl
  rw [hdashed, classifyDashed, hcut]
  simp [Switch.named?_spelling h]

end Spelling

theorem classify_value {text : String} (h : text.toList.head? ≠ some '-') :
    classify text = .ok (.value text) := by
  have hnone : Switch.named? text = none :=
    @Switch.named?_eq_none (fun t => t.toList.head? == some '-') (by decide) _ (by simpa using h)
  unfold classify
  split
  next hsome =>
    rw [hnone] at hsome
    cases hsome
  next hdash =>
    rw [hdash] at h
    exact absurd rfl h
  next => rfl

theorem attachedValues_toList {text : String} (h : text ≠ "--") :
    attachedValues text.toList = [text] := by
  have hchars : text.toList ≠ ['-', '-'] := by
    intro hc
    apply h
    rw [← String.ofList_toList (s := text), hc]
  rw [attachedValues, if_neg hchars, String.ofList_toList]

/-! ## One option after the other -/

/-- Arguments that set one option: alone if it takes no value, with what it takes behind it, or with
a value behind an equals sign. -/
inductive Says : List String → Switch × List String → Prop
  | flag {s : Switch} {spelling : String} : s ≠ .help → s.arity = .none → spelling ∈ s.spellings →
      Says [spelling] (s, [])
  | value {s : Switch} {spelling text : String} : s.arity = .one → spelling ∈ s.spellings →
      text.toList.head? ≠ some '-' → Says [spelling, text] (s, [text])
  | values {s : Switch} {spelling : String} {texts : List String} : s.arity = .some →
      spelling ∈ s.spellings → texts ≠ [] → (∀ text ∈ texts, text.toList.head? ≠ some '-') →
      Says (spelling :: texts) (s, texts)
  | attached {s : Switch} {spelling text : String} : s.arity ≠ .none → spelling ∈ s.spellings →
      text ≠ "--" → Says [spelling ++ "=" ++ text] (s, [text])

/-- Arguments read so far, and one option more. -/
def Progress.take (p : Progress) (set : Switch × List String) : Progress :=
  { p with options := p.options.set set, seen := set.1 :: p.seen }

/-- Arguments that are told apart as words, of which the first is an option that takes all others,
and no more if no value follows. -/
structure ReadAs (arguments : List String) (words : List Word) (set : Switch × List String) :
    Prop where
  classifyAll : ∀ rest, classifyAll (arguments ++ rest) = (words ++ ·) <$> classifyAll rest
  leadingValues : ∀ ws, leadingValues (words ++ ws) = []
  consume : ∀ p ws, CommandLine.leadingValues ws = [] →
    consume p 0 (words ++ ws) = consume (p.take set) 0 ws

theorem classifyAll_cons {text : String} {w : Word} (htext : text ≠ "--")
    (hword : classify text = .ok w) (rest : List String) :
    classifyAll (text :: rest) = (w :: ·) <$> classifyAll rest := by
  rw [classifyAll, if_neg htext, hword]
  cases classifyAll rest <;> rfl

theorem classifyAll_values {texts : List String}
    (h : ∀ text ∈ texts, text.toList.head? ≠ some '-') (rest : List String) :
    classifyAll (texts ++ rest) = (texts.map .value ++ ·) <$> classifyAll rest := by
  induction texts with
  | nil => exact (id_map _).symm
  | cons text texts ih =>
      obtain ⟨htext, htexts⟩ := List.forall_mem_cons.mp h
      have hdashes : text ≠ "--" := by
        rintro rfl
        exact htext rfl
      rw [List.cons_append, classifyAll_cons hdashes (classify_value htext), ih htexts]
      cases classifyAll rest <;> rfl

theorem leadingValues_append (texts : List String) (ws : List Word) :
    leadingValues (texts.map .value ++ ws) = texts ++ leadingValues ws := by
  induction texts with
  | nil => rfl
  | cons text texts ih => exact congrArg (text :: ·) ih

theorem consume_length (p : Progress) (used ws : List Word) :
    consume p used.length (used ++ ws) = consume p 0 ws := by
  induction used with
  | nil => rfl
  | cons w used ih => exact ih

theorem readAs_spelling {s : Switch} {spelling : String} {texts : List String} (hhelp : s ≠ .help)
    (hspelling : spelling ∈ s.spellings) (htexts : ∀ text ∈ texts, text.toList.head? ≠ some '-')
    (htake : takeFollowing s texts = .ok { settings := [(s, texts)], used := texts.length }) :
    ∃ words, ReadAs (spelling :: texts) words (s, texts) := by
  obtain ⟨long, hword⟩ := classify_spelling hspelling
  refine ⟨.option s long none :: texts.map .value, ?_, fun _ => rfl, ?_⟩
  · intro rest
    rw [List.cons_append, classifyAll_cons (Switch.spelling_ne hspelling) hword,
      classifyAll_values htexts]
    cases classifyAll rest <;> rfl
  · intro p ws hws
    have hused := consume_length (p.take (s, texts)) (texts.map .value) ws
    rw [List.length_map] at hused
    rw [List.cons_append, consume, leadingValues_append, hws, List.append_nil, CommandLine.take,
      htake]
    simp only [bind, Except.bind, Progress.setAll, if_neg hhelp]
    exact hused

theorem Says.exists_readAs {arguments : List String} {set : Switch × List String}
    (h : Says arguments set) : ∃ words, ReadAs arguments words set := by
  cases h with
  | @flag s spelling hhelp harity hspelling =>
      refine readAs_spelling hhelp hspelling (List.forall_mem_nil _) ?_
      simp [takeFollowing, harity]
  | @value s spelling text harity hspelling htext =>
      have hhelp : s ≠ .help := Switch.ne_help_of_arity (by rw [harity]; nofun)
      refine readAs_spelling hhelp hspelling (List.forall_mem_singleton.mpr htext) ?_
      simp [takeFollowing, harity]
  | @values s spelling texts harity hspelling hne htexts =>
      have hhelp : s ≠ .help := Switch.ne_help_of_arity (by rw [harity]; nofun)
      refine readAs_spelling hhelp hspelling htexts ?_
      obtain ⟨text, texts, rfl⟩ := List.exists_cons_of_ne_nil hne
      simp [takeFollowing, harity]
  | @attached s spelling text harity hspelling htext =>
      have hhelp : s ≠ .help := Switch.ne_help_of_arity harity
      obtain ⟨long, hword⟩ := classify_attached hspelling text
      refine ⟨[_], classifyAll_cons (Switch.spelling_append_ne spelling text) hword,
        fun _ => rfl, ?_⟩
      intro p ws _
      have htake : CommandLine.take s long (some text.toList) (leadingValues ws)
          = .ok { settings := [(s, [text])] } := by
        cases hs : s.arity with
        | none => exact absurd hs harity
        | one | some => simp [CommandLine.take, hs, attachedValues_toList htext]
      rw [List.singleton_append, consume, htake]
      simp only [bind, Except.bind, Progress.setAll, if_neg hhelp]
      rfl

/-- Arguments that set options set them one after the other, and nothing is left over. -/
theorem consume_flatten {segments : List (List String)} {sets : List (Switch × List String)}
    (h : List.Forall₂ Says segments sets) :
    ∃ words, classifyAll segments.flatten = .ok words ∧ leadingValues words = [] ∧
      ∀ p, consume p 0 words = (sets.foldl Progress.take p).finish := by
  induction h with
  | nil => exact ⟨[], rfl, rfl, fun _ => rfl⟩
  | @cons segment set segments sets hsays _ ih =>
      obtain ⟨words, hwords⟩ := hsays.exists_readAs
      obtain ⟨ws, hclassify, hleading, hconsume⟩ := ih
      refine ⟨words ++ ws, ?_, hwords.leadingValues ws, ?_⟩
      · rw [List.flatten_cons, hwords.classifyAll, hclassify]
        rfl
      · intro p
        rw [hwords.consume p ws hleading, hconsume]
        rfl

theorem foldl_take (sets : List (Switch × List String)) (p : Progress) :
    sets.foldl Progress.take p
      = { p with options := sets.foldl Options.set p.options
                 seen := (sets.map (·.1)).reverse ++ p.seen } := by
  induction sets generalizing p with
  | nil => rfl
  | cons set sets ih =>
      rw [List.foldl_cons, ih]
      simp [Progress.take]

/-! ## The arguments for given options -/

namespace Options

/-- Arguments that ask for given options: they set one after the other. -/
def SaidBy (o : Options) (arguments : List String) : Prop :=
  ∃ segments sets, List.Forall₂ Says segments sets ∧ arguments = segments.flatten ∧
    sets.foldl Options.set {} = o

theorem descriptorSet_foldl {sets : List (Switch × List String)}
    (h : .descriptorSet ∉ sets.map (·.1)) (o : Options) :
    (sets.foldl Options.set o).descriptorSet = o.descriptorSet := by
  induction sets generalizing o with
  | nil => rfl
  | cons set sets ih =>
      rw [List.map_cons, List.mem_cons, not_or] at h
      rw [List.foldl_cons, ih h.2]
      obtain ⟨s, values⟩ := set
      cases s with
      | descriptorSet => exact absurd rfl h.1
      | help | files | outputDir | noMessages | wktPackage | verbose => rfl

theorem parse_of_saidBy {o : Options} {set : String} {arguments : List String}
    (hset : o.descriptorSet = some set) (h : o.SaidBy arguments) :
    parse arguments = .ok (.run o) := by
  obtain ⟨segments, sets, hsays, rfl, rfl⟩ := h
  obtain ⟨words, hclassify, -, hconsume⟩ := consume_flatten hsays
  -- without the option for the schema set there is none in what is read
  have hseen : .descriptorSet ∈ sets.map (·.1) := by
    by_contra hnone
    rw [descriptorSet_foldl hnone] at hset
    cases hset
  show classifyAll segments.flatten >>= consume {} 0 = _
  rw [hclassify]
  show consume {} 0 words = _
  rw [hconsume, foldl_take, Progress.finish, if_neg (by simpa using hseen), if_neg (by simp)]

/-- Options that can be asked for: no value is two dashes, and no file is taken for an option. -/
structure Speakable (o : Options) : Prop where
  descriptorSet : o.descriptorSet ≠ some "--"
  outputDir : o.outputDir ≠ "--"
  wktPackage : o.wktPackage ≠ "--"
  files : ∀ name ∈ o.files, name.toList.head? ≠ some '-'

/-- What has to be set for given options. -/
def given (o : Options) : List (Switch × List String) :=
  o.descriptorSet.toList.map (fun set => (Switch.descriptorSet, [set]))
    ++ (if o.outputDir = "" then [] else [(Switch.outputDir, [o.outputDir])])
    ++ (if o.wktPackage = "" then [] else [(Switch.wktPackage, [o.wktPackage])])
    ++ (if o.noMessages then [(Switch.noMessages, [])] else [])
    ++ (if o.verbose then [(Switch.verbose, [])] else [])
    ++ (if o.files = [] then [] else [(Switch.files, o.files)])

theorem foldl_given (o : Options) : o.given.foldl Options.set {} = o := by
  obtain ⟨descriptorSet, files, outputDir, noMessages, wktPackage, verbose⟩ := o
  by_cases houtput : outputDir = "" <;> by_cases hpackage : wktPackage = "" <;>
    cases descriptorSet <;> cases files <;> cases noMessages <;> cases verbose <;>
    simp [given, Options.set, houtput, hpackage]

/-- An option by its long spelling, with its value attached if it takes one. -/
def spell : Switch × List String → List String
  | (s, values) =>
    let long := s.spellings.getLastD ""
    match s.arity with
    | .one => [long ++ "=" ++ values.headD ""]
    | .none | .some => long :: values

/-- Arguments that ask for given options. -/
def arguments (o : Options) : List String := (o.given.map spell).flatten

theorem Speakable.says {o : Options} (h : o.Speakable) : ∀ set ∈ o.given, Says (spell set) set := by
  intro set hmem
  simp only [given, List.mem_append, List.mem_map, Option.mem_toList] at hmem
  rcases hmem with ((((⟨text, htext, rfl⟩ | hmem) | hmem) | hmem) | hmem) | hmem
  · refine .attached (by decide) (by decide) ?_
    rintro rfl
    exact h.descriptorSet htext
  · split at hmem
    · cases hmem
    · rw [List.mem_singleton.mp hmem]
      exact .attached (by decide) (by decide) h.outputDir
  · split at hmem
    · cases hmem
    · rw [List.mem_singleton.mp hmem]
      exact .attached (by decide) (by decide) h.wktPackage
  · split at hmem
    · rw [List.mem_singleton.mp hmem]
      exact .flag (by decide) rfl (by decide)
    · cases hmem
  · split at hmem
    · rw [List.mem_singleton.mp hmem]
      exact .flag (by decide) rfl (by decide)
    · cases hmem
  · split at hmem
    · cases hmem
    · next hfiles =>
      rw [List.mem_singleton.mp hmem]
      exact .values rfl (by decide) hfiles h.files

theorem saidBy_arguments {o : Options} (h : o.Speakable) : o.SaidBy o.arguments := by
  refine ⟨o.given.map spell, o.given, ?_, rfl, o.foldl_given⟩
  rw [List.forall₂_map_left_iff, List.forall₂_same]
  exact h.says

end Options

end RpcStubs.CommandLine
