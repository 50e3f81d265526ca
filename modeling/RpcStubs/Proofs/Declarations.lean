/-
# The index holds what is declared

A schema set is a list of trees: files hold messages and enums, and messages
hold messages and enums again.  The index is made by one walk over them that
enters every message and every enum under its full name.  This module says what
the outcome is without the walk:

  * a declaration has a PLACE, the numbers of its file and of the scopes down to
    it, and a CHAIN, the names on the way (`Declares`, `DeclaredIn`);
  * its full name is its package and its chain, joined by dots (`fullName`);
  * a name is found exactly if something is declared under it, and what is found
    is the record of the LAST declaration;
  * the tables list each name once, in the order of the FIRST declarations.

Within a scope the enums are numbered behind the messages.  The lexicographic
order of places is then the order of the walk for messages (each before what is
in it) and for enums (those of inner messages first) alike.

The walk names a message inside its scope, step by step.  That this is the
joined chain needs names that are not empty: in a file without a package, the
scope of a message without a name would be taken for no scope at all.
-/
import RpcStubs.Proofs.Agreement
import RpcStubs.Proofs.Resolvable
import RpcStubs.Proofs.Tables

namespace RpcStubs

/-! ## Places -/

/-- The number of a file and the numbers of the scopes inside it, from the outermost on. -/
abbrev Place := List Nat

namespace Place

variable {i j : Nat} {p q : Place}

/-- The order in which a schema set is read. -/
def Before (p q : Place) : Prop := List.Lex (· < ·) p q

theorem Before.not_before (h : Before p q) : ¬ Before q p :=
  List.lex_asymm (fun h => Nat.lt_asymm h) h

theorem not_before_self (p : Place) : ¬ Before p p :=
  List.lex_irrefl Nat.lt_irrefl p

theorem Before.inside (h : Before p q) (i : Nat) : Before (i :: p) (i :: q) :=
  List.Lex.cons h

theorem before_of_lt (h : i < j) : Before (i :: p) (j :: q) :=
  List.Lex.rel h

theorem before_inside (hp : p ≠ []) : Before [i] (i :: p) := by
  obtain ⟨j, q, rfl⟩ := List.exists_cons_of_ne_nil hp
  exact List.Lex.cons List.Lex.nil

end Place

open Place (Before)

/-! ## Declarations -/

/-- What a schema declares. -/
inductive Declared where
  | message (m : Message)
  | enum (x : Enum)

/-- What is declared in a scope with these messages and enums, with its place in the scope and
the names that lead to it. -/
inductive Declares : List Message → List Enum → Place → List String → Declared → Prop
  | message {ms : List Message} {es : List Enum} {i : Nat} {m : Message} :
      ms[i]? = some m → Declares ms es [i] [m.name] (.message m)
  | enum {ms : List Message} {es : List Enum} {j : Nat} {x : Enum} :
      es[j]? = some x → Declares ms es [ms.length + j] [x.name] (.enum x)
  | inside {ms : List Message} {es : List Enum} {i : Nat} {m : Message} {place : Place}
      {chain : List String} {d : Declared} :
      ms[i]? = some m → Declares m.nested m.enums place chain d →
        Declares ms es (i :: place) (m.name :: chain) d

/-- What is declared in a schema set, with its file. -/
def DeclaredIn (files : List File) (file : File) : Place → List String → Declared → Prop
  | [], _, _ => False
  | i :: place, chain, d =>
      files[i]? = some file ∧ Declares file.messages file.enums place chain d

/-- Names joined by dots. -/
def dotted (chain : List String) : String := ".".intercalate chain

/-- The name of a declaration in the whole schema set.  An empty package is left out. -/
def fullName (package : String) (chain : List String) : String :=
  dotted (if package = "" then chain else package :: chain)

/-- What is declared in a schema set under a full name. -/
def NamedIn (files : List File) (full : String) (file : File) (place : Place) (chain : List String)
    (d : Declared) : Prop :=
  DeclaredIn files file place chain d ∧ fullName file.package chain = full

/-- A field is the last one with its number. -/
def LastNumbered (number : Int) (fields : List Field) (f : Field) : Prop :=
  ∃ before after, fields = before ++ f :: after ∧ f.number = number ∧
    ∀ g ∈ after, g.number ≠ number

/-- What a field refers to: its kind, and its type name without one leading dot. -/
structure Field.Refers (f : Field) (type : TypeRef) : Prop where
  kind : type.kind = f.kind
  name : f.typeName = "." ++ type.name ∨ f.typeName.toList.head? ≠ some '.' ∧ f.typeName = type.name

/-- What the index records of a message. -/
structure MessageEntry.Records (e : MessageEntry) (file : File) (m : Message) : Prop where
  package : e.package = file.package
  file : e.file = file.name
  isMapEntry : e.isMapEntry = m.isMapEntry
  mapTypes_iff : (∃ types, e.mapTypes = some types) ↔
    m.isMapEntry = true ∧ (∃ f ∈ m.fields, f.number = 1) ∧ ∃ f ∈ m.fields, f.number = 2
  mapTypes : ∀ types, e.mapTypes = some types →
    ∃ key value, LastNumbered 1 m.fields key ∧ key.Refers types.key ∧
      LastNumbered 2 m.fields value ∧ value.Refers types.value

/-- What the index records of an enum. -/
structure EnumEntry.Records (e : EnumEntry) (file : File) : Prop where
  package : e.package = file.package
  file : e.file = file.name

/-- A table lists the names that are given at places: each once, in the order of the first
places, with the value that is found under it. -/
structure Table.ListsNames {α : Type} (t : Table α) (At : String → Place → Prop) : Prop where
  nodup : t.keys.Nodup
  mem_keys : ∀ full, full ∈ t.keys ↔ ∃ place, At full place
  mem_entries : ∀ full value, (full, value) ∈ t.entries ↔ t.find? full = some value
  order : t.keys.Pairwise fun a b => ∃ place, At a place ∧ ∀ other, At b other → Before place other

/-- An index holds the declarations of a schema set and nothing else. -/
structure Index.Exact (ix : Index) (files : List File) : Prop where
  message_iff : ∀ full, (∃ e, ix.message full = .ok e) ↔
    ∃ file place chain m, NamedIn files full file place chain (.message m)
  message : ∀ full e, ix.message full = .ok e → ∃ file place chain m,
    NamedIn files full file place chain (.message m) ∧
    (∀ file' place' chain' m', NamedIn files full file' place' chain' (.message m') →
      ¬ Before place place') ∧
    e.Records file m ∧ TypeName.within e.package full = dotted chain
  enum_iff : ∀ full, (∃ e, ix.enum full = .ok e) ↔
    ∃ file place chain x, NamedIn files full file place chain (.enum x)
  enum : ∀ full e, ix.enum full = .ok e → ∃ file place chain x,
    NamedIn files full file place chain (.enum x) ∧
    (∀ file' place' chain' x', NamedIn files full file' place' chain' (.enum x') →
      ¬ Before place place') ∧
    e.Records file ∧ TypeName.within e.package full = dotted chain
  messages : ix.messages.ListsNames fun full place =>
    ∃ file chain m, NamedIn files full file place chain (.message m)
  enums : ix.enums.ListsNames fun full place =>
    ∃ file chain x, NamedIn files full file place chain (.enum x)

/-! ## Names -/

theorem dotted_cons (name : String) {chain : List String} (h : chain ≠ []) :
    dotted (name :: chain) = name ++ "." ++ dotted chain := by
  obtain ⟨next, rest, rfl⟩ := List.exists_cons_of_ne_nil h
  exact String.intercalate_cons_cons

theorem dotted_singleton (name : String) : dotted [name] = name :=
  String.intercalate_singleton

theorem fullName_eq_qualify (package : String) {chain : List String} (h : chain ≠ []) :
    fullName package chain = TypeName.qualify package (dotted chain) := by
  unfold fullName TypeName.qualify
  split
  next => rfl
  next => exact dotted_cons package h

theorem within_fullName (package : String) {chain : List String} (h : chain ≠ []) :
    TypeName.within package (fullName package chain) = dotted chain := by
  rw [fullName_eq_qualify package h, TypeName.within_qualify]

theorem qualify_dotted_cons (scope : String) {name : String} (hname : name ≠ "")
    {chain : List String} (h : chain ≠ []) :
    TypeName.qualify scope (dotted (name :: chain))
      = TypeName.qualify (TypeName.qualify scope name) (dotted chain) := by
  rw [dotted_cons name h, TypeName.qualify_qualify scope hname]

/-! ## Records -/

theorem fieldNumbered?_eq_some {number : Int} {fields : List Field} {f : Field} :
    fieldNumbered? number fields = some f → LastNumbered number fields f := by
  intro h
  obtain ⟨hnumber, after, before, hsplit, hafter⟩ := List.find?_eq_some_iff_append.mp h
  refine ⟨before.reverse, after.reverse, ?_, by simpa using hnumber, fun g hg => ?_⟩
  · rw [← List.reverse_reverse fields, hsplit]
    simp
  · simpa using hafter g (List.mem_reverse.mp hg)

theorem isSome_fieldNumbered? {number : Int} {fields : List Field} :
    (∃ f, fieldNumbered? number fields = some f) ↔ ∃ f ∈ fields, f.number = number := by
  unfold fieldNumbered?
  rw [← Option.isSome_iff_exists, List.find?_isSome]
  simp

theorem mapTypes?_eq_some {fields : List Field} {types : MapTypes} :
    mapTypes? fields = some types ↔
      ∃ key value, fieldNumbered? 1 fields = some key ∧ fieldNumbered? 2 fields = some value ∧
        types = ⟨key.typeRef, value.typeRef⟩ := by
  unfold mapTypes?
  cases fieldNumbered? 1 fields <;> cases fieldNumbered? 2 fields <;> simp [eq_comm]

theorem Field.refers_typeRef (f : Field) : f.Refers f.typeRef where
  kind := rfl
  name := by
    show _ = "." ++ TypeName.bare f.typeName ∨ _ ∧ _ = TypeName.bare f.typeName
    unfold TypeName.bare
    split
    next cs h =>
      refine .inl (String.toList_inj.mp ?_)
      simp [h]
    next h =>
      refine .inr ⟨fun hdot => ?_, rfl⟩
      obtain ⟨cs, hcs⟩ := List.head?_eq_some_iff.mp hdot
      exact h cs hcs

theorem Message.records_entry (m : Message) (file : File) : (m.entry file).Records file m where
  package := rfl
  file := rfl
  isMapEntry := rfl
  mapTypes_iff := by
    show (∃ types, (if m.isMapEntry then mapTypes? m.fields else none) = some types) ↔ _
    rw [← isSome_fieldNumbered?, ← isSome_fieldNumbered?]
    cases m.isMapEntry with
    | false => simp
    | true =>
        simp only [if_true, mapTypes?_eq_some, true_and]
        constructor
        · rintro ⟨_, key, value, hkey, hvalue, -⟩
          exact ⟨⟨key, hkey⟩, value, hvalue⟩
        · rintro ⟨⟨key, hkey⟩, value, hvalue⟩
          exact ⟨_, key, value, hkey, hvalue, rfl⟩
  mapTypes := by
    intro types h
    change (if m.isMapEntry then mapTypes? m.fields else none) = some types at h
    split at h
    next =>
      obtain ⟨key, value, hkey, hvalue, rfl⟩ := mapTypes?_eq_some.mp h
      exact ⟨key, value, fieldNumbered?_eq_some hkey, key.refers_typeRef,
        fieldNumbered?_eq_some hvalue, value.refers_typeRef⟩
    next => cases h

/-! ## The walk, with places

The list of all declarations in the order of the walk.  It holds exactly what is
declared (`mem_placedAll`), in the order of the places (`pairwise_placedAll`). -/

/-- A declaration with its place and its chain. -/
structure Placed where
  place : Place
  chain : List String
  what : Declared

/-- A declaration of a scope, seen from the scope around it. -/
def Placed.inside (i : Nat) (name : String) (p : Placed) : Placed :=
  ⟨i :: p.place, name :: p.chain, p.what⟩

/-- The enums of a scope, numbered from `i` on. -/
def Enum.placedAll (i : Nat) (es : List Enum) : List Placed :=
  (es.zipIdx i).map fun x => ⟨[x.2], [x.1.name], .enum x.1⟩

mutual

/-- A message that is number `i` of its scope, and what is in it. -/
def Message.placed (i : Nat) : Message → List Placed
  | m@⟨name, _, nested, enums, _, _, _⟩ =>
    ⟨[i], [name], .message m⟩ :: (Message.placedAll 0 enums nested).map (Placed.inside i name)

/-- The declarations of a scope, numbered from `i` on. -/
def Message.placedAll (i : Nat) (es : List Enum) : List Message → List Placed
  | [] => Enum.placedAll i es
  | m :: ms => m.placed i ++ Message.placedAll (i + 1) es ms

end

/-- What a message declares: itself, and what is in it. -/
def Message.Holds (m : Message) (place : Place) (chain : List String) (d : Declared) : Prop :=
  (place = [] ∧ chain = [m.name] ∧ d = .message m) ∨
    ∃ rest, chain = m.name :: rest ∧ Declares m.nested m.enums place rest d

namespace Declares

variable {ms : List Message} {es : List Enum} {m : Message} {i : Nat} {place : Place}
  {chain : List String} {d : Declared}

theorem chain_ne_nil (h : Declares ms es place chain d) : chain ≠ [] := by
  cases h <;> exact List.cons_ne_nil _ _

theorem place_ne_nil (h : Declares ms es place chain d) : place ≠ [] := by
  cases h <;> exact List.cons_ne_nil _ _

/-- What has a number in a scope is in the message with that number, or an enum. -/
theorem cons_iff : Declares ms es (i :: place) chain d ↔
    (∃ m, ms[i]? = some m ∧ m.Holds place chain d) ∨
    ∃ j x, i = ms.length + j ∧ es[j]? = some x ∧ place = [] ∧ chain = [x.name] ∧ d = .enum x := by
  constructor
  · intro h
    cases h with
    | message hm => exact .inl ⟨_, hm, .inl ⟨rfl, rfl, rfl⟩⟩
    | enum hx => exact .inr ⟨_, _, rfl, hx, rfl, rfl, rfl⟩
    | inside hm h => exact .inl ⟨_, hm, .inr ⟨_, rfl, h⟩⟩
  · rintro (⟨m, hm, ⟨rfl, rfl, rfl⟩ | ⟨rest, rfl, h⟩⟩ | ⟨j, x, rfl, hx, rfl, rfl, rfl⟩)
    · exact .message hm
    · exact .inside hm h
    · exact .enum hx

theorem first_iff : Declares (m :: ms) es (0 :: place) chain d ↔ m.Holds place chain d := by
  rw [cons_iff]
  constructor
  · rintro (⟨_, hm, h⟩ | ⟨j, _, hj, -⟩)
    · cases hm
      exact h
    · rw [List.length_cons] at hj
      omega
  · intro h
    exact .inl ⟨m, rfl, h⟩

theorem next_iff :
    Declares (m :: ms) es ((i + 1) :: place) chain d ↔ Declares ms es (i :: place) chain d := by
  have hnumber : ∀ j, i + 1 = (m :: ms).length + j ↔ i = ms.length + j := by
    intro j
    rw [List.length_cons]
    omega
  rw [cons_iff, cons_iff]
  simp only [List.getElem?_cons_succ, hnumber]

end Declares

theorem Enum.mem_placedAll {i : Nat} {es : List Enum} {p : Placed} :
    p ∈ Enum.placedAll i es ↔
      ∃ k rest, p.place = (i + k) :: rest ∧ Declares [] es (k :: rest) p.chain p.what := by
  unfold Enum.placedAll
  rw [List.mem_map]
  constructor
  · rintro ⟨⟨x, k⟩, hx, rfl⟩
    obtain ⟨hle, hx⟩ := List.mem_zipIdx_iff_le_and_getElem?_sub.mp hx
    refine ⟨k - i, [], ?_, ?_⟩
    · rw [Nat.add_sub_cancel' hle]
    · exact Declares.cons_iff.mpr (.inr ⟨k - i, x, by simp, hx, rfl, rfl, rfl⟩)
  · rintro ⟨k, rest, hplace, h⟩
    rcases Declares.cons_iff.mp h with ⟨m, hm, -⟩ | ⟨j, x, rfl, hx, rfl, hchain, hwhat⟩
    · cases hm
    · obtain ⟨place, chain, what⟩ := p
      cases hplace
      cases hchain
      cases hwhat
      refine ⟨(x, i + j), List.mem_zipIdx_iff_le_and_getElem?_sub.mpr ⟨?_, ?_⟩, by simp⟩
      · omega
      · simpa using hx

namespace Message

mutual

theorem mem_placed (i : Nat) {p : Placed} :
    ∀ m : Message, p ∈ m.placed i ↔ ∃ place, p.place = i :: place ∧ m.Holds place p.chain p.what
  | ⟨name, fields, nested, enums, oneofs, extensions, isMapEntry⟩ => by
      rw [placed, List.mem_cons, List.mem_map]
      constructor
      · rintro (rfl | ⟨q, hq, rfl⟩)
        · exact ⟨[], rfl, .inl ⟨rfl, rfl, rfl⟩⟩
        · obtain ⟨k, rest, hplace, h⟩ := (mem_placedAll 0 enums nested).mp hq
          rw [Nat.zero_add] at hplace
          exact ⟨q.place, rfl, .inr ⟨q.chain, rfl, hplace ▸ h⟩⟩
      · obtain ⟨pplace, pchain, what⟩ := p
        rintro ⟨place, rfl, ⟨rfl, rfl, rfl⟩ | ⟨rest, rfl, h⟩⟩
        · exact .inl rfl
        · refine .inr ⟨⟨place, rest, what⟩, (mem_placedAll 0 enums nested).mpr ?_, rfl⟩
          obtain ⟨k, tail, rfl⟩ := List.exists_cons_of_ne_nil h.place_ne_nil
          exact ⟨k, tail, by rw [Nat.zero_add], h⟩

theorem mem_placedAll (i : Nat) (es : List Enum) {p : Placed} :
    ∀ ms : List Message, p ∈ placedAll i es ms ↔
      ∃ k rest, p.place = (i + k) :: rest ∧ Declares ms es (k :: rest) p.chain p.what
  | [] => by
      rw [placedAll]
      exact Enum.mem_placedAll
  | m :: ms => by
      rw [placedAll, List.mem_append, mem_placed i m, mem_placedAll (i + 1) es ms]
      constructor
      · rintro (⟨place, hplace, h⟩ | ⟨k, rest, hplace, h⟩)
        · exact ⟨0, place, hplace, Declares.first_iff.mpr h⟩
        · exact ⟨k + 1, rest, by rw [hplace, Nat.add_right_comm, Nat.add_assoc],
            Declares.next_iff.mpr h⟩
      · rintro ⟨k, rest, hplace, h⟩
        cases k with
        | zero => exact .inl ⟨rest, hplace, Declares.first_iff.mp h⟩
        | succ k =>
            exact .inr ⟨k, rest, by rw [hplace, Nat.add_right_comm, Nat.add_assoc],
              Declares.next_iff.mp h⟩

end

theorem mem_placedAll_zero {ms : List Message} {es : List Enum} {p : Placed} :
    p ∈ placedAll 0 es ms ↔ Declares ms es p.place p.chain p.what := by
  rw [mem_placedAll]
  constructor
  · rintro ⟨k, rest, hplace, h⟩
    rw [hplace, Nat.zero_add]
    exact h
  · intro h
    obtain ⟨k, rest, hplace⟩ := List.exists_cons_of_ne_nil h.place_ne_nil
    exact ⟨k, rest, by rw [hplace, Nat.zero_add], hplace ▸ h⟩

end Message

theorem pairwise_zipIdx {α : Type} (i : Nat) (as : List α) :
    (as.zipIdx i).Pairwise fun a b => a.2 < b.2 := by
  induction as generalizing i with
  | nil => exact .nil
  | cons a as ih =>
      refine List.pairwise_cons.mpr ⟨fun b hb => ?_, ih (i + 1)⟩
      exact List.le_snd_of_mem_zipIdx hb

namespace Message

mutual

theorem pairwise_placed (i : Nat) :
    ∀ m : Message, (m.placed i).Pairwise fun p q => Before p.place q.place
  | ⟨name, fields, nested, enums, oneofs, extensions, isMapEntry⟩ => by
      rw [placed, List.pairwise_cons, List.pairwise_map]
      constructor
      · intro q hq
        obtain ⟨p, hp, rfl⟩ := List.mem_map.mp hq
        exact Place.before_inside (mem_placedAll_zero.mp hp).place_ne_nil
      · exact (pairwise_placedAll 0 enums nested).imp fun h => h.inside i

theorem pairwise_placedAll (i : Nat) (es : List Enum) :
    ∀ ms : List Message, (placedAll i es ms).Pairwise fun p q => Before p.place q.place
  | [] => by
      rw [placedAll, Enum.placedAll, List.pairwise_map]
      exact (pairwise_zipIdx i es).imp Place.before_of_lt
  | m :: ms => by
      rw [placedAll, List.pairwise_append]
      refine ⟨pairwise_placed i m, pairwise_placedAll (i + 1) es ms, fun p hp q hq => ?_⟩
      obtain ⟨_, hp, -⟩ := (mem_placed i m).mp hp
      obtain ⟨k, _, hq, -⟩ := (mem_placedAll (i + 1) es ms).mp hq
      rw [hp, hq]
      exact Place.before_of_lt (by omega)

end

end Message

/-! ## The walk, with names

Under its scope, each declaration has the name that the walk gives it.  The
induction carries the scope: the name of the innermost message, or the package. -/

/-- What is read off a declaration, under its name in a scope. -/
def Placed.pair? {ε : Type} (scope : String) (read : Declared → Option ε) (p : Placed) :
    Option (String × ε) :=
  (read p.what).map fun e => (TypeName.qualify scope (dotted p.chain), e)

def Declared.message? : Declared → Option Message
  | .message m => some m
  | .enum _ => none

def Declared.enum? : Declared → Option Enum
  | .message _ => none
  | .enum x => some x

theorem Declared.message?_eq_some (d : Declared) (m : Message) :
    d.message? = some m ↔ d = .message m := by
  cases d <;> simp [message?]

theorem Declared.enum?_eq_some (d : Declared) (x : Enum) : d.enum? = some x ↔ d = .enum x := by
  cases d <;> simp [enum?]

/-- If a message is declared, it has a name. -/
def Placed.HasName (p : Placed) : Prop := ∀ m ∈ p.what.message?, m.name ≠ ""

instance : DecidablePred Placed.HasName := fun p =>
  inferInstanceAs (Decidable (∀ m ∈ p.what.message?, m.name ≠ ""))

namespace Message

theorem filterMap_inside {ε : Type} (scope : String) (read : Declared → Option ε) (i : Nat)
    {name : String} (hname : name ≠ "") (ms : List Message) (es : List Enum) :
    ((placedAll 0 es ms).map (Placed.inside i name)).filterMap (Placed.pair? scope read)
      = (placedAll 0 es ms).filterMap (Placed.pair? (TypeName.qualify scope name) read) := by
  rw [List.filterMap_map]
  refine List.filterMap_congr fun p hp => ?_
  have hchain := (mem_placedAll_zero.mp hp).chain_ne_nil
  show (read p.what).map _ = (read p.what).map _
  rw [← qualify_dotted_cons scope hname hchain]
  rfl

theorem filterMap_enums (scope : String) (i : Nat) (es : List Enum) :
    ((Enum.placedAll i es).filterMap (Placed.pair? scope Declared.enum?)).map (·.1)
      = es.map fun x => TypeName.qualify scope x.name := by
  have hread : (fun x : Enum × Nat => (Placed.pair? scope Declared.enum?
      ⟨[x.2], [x.1.name], .enum x.1⟩).map (·.1))
      = some ∘ fun x => TypeName.qualify scope x.1.name := by
    funext x
    rw [Function.comp_apply, ← dotted_singleton x.1.name]
    rfl
  rw [Enum.placedAll, List.filterMap_map, List.map_filterMap]
  calc (es.zipIdx i).filterMap _
      = (es.zipIdx i).map fun x => TypeName.qualify scope x.1.name := by
        rw [← List.filterMap_eq_map, ← hread]
        rfl
    _ = ((es.zipIdx i).map Prod.fst).map fun x => TypeName.qualify scope x.name := by
        rw [List.map_map]
        rfl
    _ = es.map fun x => TypeName.qualify scope x.name := by rw [List.zipIdx_map_fst]

mutual

theorem named_eq (scope : String) (i : Nat) :
    ∀ m : Message, (∀ p ∈ m.placed i, p.HasName) →
      m.named scope = (m.placed i).filterMap (Placed.pair? scope Declared.message?)
  | ⟨name, fields, nested, enums, oneofs, extensions, isMapEntry⟩ => by
      rw [placed, List.forall_mem_cons, List.forall_mem_map]
      rintro ⟨hname, hnested⟩
      have hhead : Placed.pair? scope Declared.message? ⟨[i], [name],
          .message ⟨name, fields, nested, enums, oneofs, extensions, isMapEntry⟩⟩
          = some (TypeName.qualify scope name,
              ⟨name, fields, nested, enums, oneofs, extensions, isMapEntry⟩) := by
        rw [← dotted_singleton name]
        rfl
      rw [named, List.filterMap_cons_some hhead, filterMap_inside _ _ _ (hname _ rfl),
        namedAll_eq _ 0 enums nested hnested]

theorem namedAll_eq (scope : String) (i : Nat) (es : List Enum) :
    ∀ ms : List Message, (∀ p ∈ placedAll i es ms, p.HasName) →
      namedAll scope ms = (placedAll i es ms).filterMap (Placed.pair? scope Declared.message?)
  | [] => by
      intro _
      rw [placedAll, namedAll]
      symm
      rw [List.filterMap_eq_nil_iff]
      intro p hp
      obtain ⟨x, -, rfl⟩ := List.mem_map.mp hp
      rfl
  | m :: ms => by
      rw [placedAll, List.forall_mem_append]
      rintro ⟨hm, hms⟩
      rw [namedAll, List.filterMap_append, named_eq scope i m hm,
        namedAll_eq scope (i + 1) es ms hms]

end

mutual

theorem enumNames_eq (scope : String) (i : Nat) :
    ∀ m : Message, (∀ p ∈ m.placed i, p.HasName) →
      m.enumNames scope
        = ((m.placed i).filterMap (Placed.pair? scope Declared.enum?)).map (·.1)
  | ⟨name, fields, nested, enums, oneofs, extensions, isMapEntry⟩ => by
      rw [placed, List.forall_mem_cons, List.forall_mem_map]
      rintro ⟨hname, hnested⟩
      have hname : name ≠ "" := hname _ rfl
      have hown : ∀ x : String, TypeName.qualify scope name ++ "." ++ x
          = TypeName.qualify (TypeName.qualify scope name) x := fun x => by
        rw [TypeName.qualify_qualify scope hname, TypeName.qualify_append]
      rw [enumNames, List.filterMap_cons_none rfl, filterMap_inside _ _ _ hname,
        ← enumNamesAll_eq _ 0 enums nested hnested]
      simp only [hown]

theorem enumNamesAll_eq (scope : String) (i : Nat) (es : List Enum) :
    ∀ ms : List Message, (∀ p ∈ placedAll i es ms, p.HasName) →
      enumNamesAll scope ms ++ es.map (fun x => TypeName.qualify scope x.name)
        = ((placedAll i es ms).filterMap (Placed.pair? scope Declared.enum?)).map (·.1)
  | [] => by
      intro _
      rw [placedAll, enumNamesAll, filterMap_enums, List.nil_append]
  | m :: ms => by
      rw [placedAll, List.forall_mem_append]
      rintro ⟨hm, hms⟩
      rw [enumNamesAll, List.filterMap_append, List.map_append, List.append_assoc,
        enumNames_eq scope i m hm, enumNamesAll_eq scope (i + 1) es ms hms]

end

end Message

/-! ## The whole schema set -/

/-- All declarations of a schema set, with their files. -/
def placedIn (files : List File) : List (File × Placed) :=
  files.zipIdx.flatMap fun f => (Message.placedAll 0 f.1.enums f.1.messages).map fun p =>
    (f.1, ⟨f.2 :: p.place, p.chain, p.what⟩)

variable {files : List File}

theorem mem_placedIn {file : File} {p : Placed} :
    (file, p) ∈ placedIn files ↔ DeclaredIn files file p.place p.chain p.what := by
  unfold placedIn
  rw [List.mem_flatMap]
  constructor
  · rintro ⟨⟨g, i⟩, hg, h⟩
    obtain ⟨q, hq, heq⟩ := List.mem_map.mp h
    cases heq
    exact ⟨List.mem_zipIdx_iff_getElem?.mp hg, Message.mem_placedAll_zero.mp hq⟩
  · obtain ⟨place, chain, what⟩ := p
    intro h
    cases place with
    | nil => exact h.elim
    | cons i place =>
        refine ⟨(file, i), List.mem_zipIdx_iff_getElem?.mpr h.1, List.mem_map.mpr ?_⟩
        exact ⟨⟨place, chain, what⟩, Message.mem_placedAll_zero.mpr h.2, rfl⟩

theorem pairwise_placedIn (files : List File) :
    (placedIn files).Pairwise fun a b => Before a.2.place b.2.place := by
  unfold placedIn
  refine List.pairwise_flatMap.mpr ⟨fun f _ => ?_, (pairwise_zipIdx 0 files).imp ?_⟩
  · exact List.pairwise_map.mpr ((Message.pairwise_placedAll 0 _ _).imp fun h => h.inside f.2)
  · intro f g hfg a ha b hb
    obtain ⟨p, -, rfl⟩ := List.mem_map.mp ha
    obtain ⟨q, -, rfl⟩ := List.mem_map.mp hb
    exact Place.before_of_lt hfg

/-- The declarations of one kind, each at its place and with its record under its full name. -/
def rows {κ ε : Type} (read : Declared → Option κ) (record : File → κ → ε) (files : List File) :
    List (Place × String × ε) :=
  (placedIn files).filterMap fun a =>
    (read a.2.what).map fun d => (a.2.place, fullName a.1.package a.2.chain, record a.1 d)

section Rows

variable {κ ε : Type} {read : Declared → Option κ} {record : File → κ → ε} {kind : κ → Declared}

theorem pairwise_rows : (rows read record files).Pairwise fun a b => Before a.1 b.1 := by
  refine (pairwise_placedIn files).filterMap _ fun a b h x hx y hy => ?_
  obtain ⟨_, -, rfl⟩ := Option.map_eq_some_iff.mp hx
  obtain ⟨_, -, rfl⟩ := Option.map_eq_some_iff.mp hy
  exact h

theorem map_rows (read : Declared → Option κ) (record : File → κ → ε) (files : List File) :
    (rows read record files).map (·.2) = files.flatMap fun file =>
      ((Message.placedAll 0 file.enums file.messages).filterMap
        (Placed.pair? file.package read)).map fun p => (p.1, record file p.2) := by
  unfold rows placedIn
  rw [List.map_filterMap, List.filterMap_flatMap]
  conv_rhs => rw [← List.zipIdx_map_fst 0 files, List.flatMap_map]
  refine List.flatMap_congr fun f _ => ?_
  rw [List.filterMap_map, List.map_filterMap]
  refine List.filterMap_congr fun p hp => ?_
  have hchain := (Message.mem_placedAll_zero.mp hp).chain_ne_nil
  show ((read p.what).map _).map _ = ((read p.what).map _).map _
  rw [Option.map_map, Option.map_map, ← fullName_eq_qualify f.1.package hchain]
  rfl

variable (hkind : ∀ d a, read d = some a ↔ d = kind a)

include hkind

theorem mem_rows {place : Place} {full : String} {e : ε} :
    (place, full, e) ∈ rows read record files ↔
      ∃ file chain a, NamedIn files full file place chain (kind a) ∧ record file a = e := by
  unfold rows
  rw [List.mem_filterMap]
  constructor
  · rintro ⟨⟨file, ⟨_, chain, d⟩⟩, hd, h⟩
    obtain ⟨a, ha, heq⟩ := Option.map_eq_some_iff.mp h
    cases heq
    obtain rfl := (hkind d a).mp ha
    exact ⟨file, chain, a, ⟨mem_placedIn.mp hd, rfl⟩, rfl⟩
  · rintro ⟨file, chain, a, ⟨hd, rfl⟩, rfl⟩
    refine ⟨(file, ⟨place, chain, kind a⟩), mem_placedIn.mpr hd, ?_⟩
    exact Option.map_eq_some_iff.mpr ⟨a, (hkind _ a).mpr rfl, rfl⟩

theorem exists_row_iff (record : File → κ → ε) {full : String} {place : Place} :
    (∃ row ∈ rows read record files, row.2.1 = full ∧ row.1 = place) ↔
      ∃ file chain a, NamedIn files full file place chain (kind a) := by
  constructor
  · rintro ⟨⟨_, _, e⟩, hrow, rfl, rfl⟩
    obtain ⟨file, chain, a, ha, -⟩ := (mem_rows hkind).mp hrow
    exact ⟨file, chain, a, ha⟩
  · rintro ⟨file, chain, a, ha⟩
    exact ⟨(place, full, record file a), (mem_rows hkind).mpr ⟨file, chain, a, ha, rfl⟩, rfl, rfl⟩

/-- What is found under a name is the record of its last declaration. -/
theorem last_of_find?_rows {full : String} {e : ε}
    (h : (Table.ofList ((rows read record files).map (·.2))).find? full = some e) :
    ∃ file place chain a, NamedIn files full file place chain (kind a) ∧
      (∀ file' place' chain' a', NamedIn files full file' place' chain' (kind a') →
        ¬ Before place place') ∧ record file a = e := by
  obtain ⟨place, hrow, hlast⟩ := Table.last_of_find?_ofList pairwise_rows h
  obtain ⟨file, chain, a, ha, hrecord⟩ := (mem_rows hkind).mp hrow
  refine ⟨file, place, chain, a, ha, fun file' place' chain' a' ha' => ?_, hrecord⟩
  have hother : (place', full, record file' a') ∈ rows read record files :=
    (mem_rows hkind).mpr ⟨file', chain', a', ha', rfl⟩
  rcases hlast _ hother rfl with heq | hbefore
  · rw [← show place' = place from heq]
    exact Place.not_before_self place'
  · exact hbefore.not_before

theorem listsNames_rows :
    (Table.ofList ((rows read record files).map (·.2))).ListsNames fun full place =>
      ∃ file chain a, NamedIn files full file place chain (kind a) where
  nodup := Table.nodup_keys_ofList _
  mem_keys full := by
    rw [Table.mem_keys_ofList_rows]
    constructor
    · rintro ⟨row, hrow, hname⟩
      exact ⟨row.1, (exists_row_iff hkind record).mp ⟨row, hrow, hname, rfl⟩⟩
    · rintro ⟨place, h⟩
      obtain ⟨row, hrow, hname, -⟩ := (exists_row_iff hkind record).mpr h
      exact ⟨row, hrow, hname⟩
  mem_entries full e := (Table.find?_iff_mem_entries (Table.nodup_keys_ofList _)).symm
  order := by
    refine (Table.pairwise_keys_ofList pairwise_rows).imp fun {a b} ⟨row, hrow, ha, hb⟩ => ?_
    refine ⟨row.1, (exists_row_iff hkind record).mp ⟨row, hrow, ha, rfl⟩, fun place h => ?_⟩
    obtain ⟨other, hother, hname, rfl⟩ := (exists_row_iff hkind record).mpr h
    exact hb other hother hname

end Rows

theorem NamedIn.within_package {full : String} {file : File} {place : Place} {chain : List String}
    {d : Declared} (h : NamedIn files full file place chain d) :
    TypeName.within file.package full = dotted chain := by
  obtain ⟨hd, rfl⟩ := h
  cases place with
  | nil => exact hd.elim
  | cons i place => exact within_fullName file.package hd.2.chain_ne_nil

theorem forall_hasName_iff : (∀ a ∈ placedIn files, a.2.HasName) ↔
    ∀ file place chain m, DeclaredIn files file place chain (.message m) → m.name ≠ "" := by
  constructor
  · intro h file place chain m hm
    exact h (file, ⟨place, chain, .message m⟩) (mem_placedIn.mpr hm) m rfl
  · rintro h ⟨file, place, chain, d⟩ hd m hm
    obtain rfl := (d.message?_eq_some m).mp hm
    exact h file place chain m (mem_placedIn.mp hd)

namespace Index

variable (hnames : ∀ file place chain m,
  DeclaredIn files file place chain (.message m) → m.name ≠ "")

include hnames

theorem hasName_of_mem {file : File} (hfile : file ∈ files) :
    ∀ p ∈ Message.placedAll 0 file.enums file.messages, p.HasName := by
  rintro ⟨place, chain, d⟩ hd m hm
  obtain rfl := (d.message?_eq_some m).mp hm
  obtain ⟨i, hi⟩ := List.mem_iff_getElem?.mp hfile
  exact hnames file (i :: place) chain m ⟨hi, Message.mem_placedAll_zero.mp hd⟩

theorem messages_ofFiles : (ofFiles files).messages
    = Table.ofList ((rows Declared.message? (fun file m => m.entry file) files).map (·.2)) := by
  rw [map_rows]
  refine congrArg Table.ofList (List.flatMap_congr fun file hfile => ?_)
  rw [File.messageEntries,
    Message.namedAll_eq file.package 0 file.enums file.messages (hasName_of_mem hnames hfile)]

theorem enums_ofFiles : (ofFiles files).enums = Table.ofList
    ((rows Declared.enum? (fun file _ => EnumEntry.mk file.package file.name) files).map
      (·.2)) := by
  rw [map_rows]
  refine congrArg Table.ofList (List.flatMap_congr fun file hfile => ?_)
  rw [File.enumEntries, File.enumNames,
    Message.enumNamesAll_eq file.package 0 file.enums file.messages (hasName_of_mem hnames hfile),
    List.map_map]
  rfl

end Index

/-- The index of a schema set whose messages have names holds exactly what is declared in it: a
name is found if and only if something is declared under it, with the record of the last
declaration, and behind its package the name is the chain of the declared names.  The tables list
the names once each, in the order of the first declarations. -/
theorem Index.ofFiles_holds_exactly_the_declarations (files : List File)
    (hnames : ∀ file place chain m,
      DeclaredIn files file place chain (.message m) → m.name ≠ "") :
    (Index.ofFiles files).Exact files := by
  have hmessages : (ofFiles files).messages.ListsNames fun full place =>
      ∃ file chain m, NamedIn files full file place chain (.message m) := by
    rw [messages_ofFiles hnames]
    exact listsNames_rows Declared.message?_eq_some
  have henums : (ofFiles files).enums.ListsNames fun full place =>
      ∃ file chain x, NamedIn files full file place chain (.enum x) := by
    rw [enums_ofFiles hnames]
    exact listsNames_rows Declared.enum?_eq_some
  refine ⟨fun full => ?_, fun full e he => ?_, fun full => ?_, fun full e he => ?_,
    hmessages, henums⟩
  · simp only [message_eq_ok]
    rw [← Table.mem_keys_iff_find?, hmessages.mem_keys, exists_comm]
  · rw [message_eq_ok, messages_ofFiles hnames] at he
    obtain ⟨file, place, chain, m, hm, hlast, rfl⟩ :=
      last_of_find?_rows Declared.message?_eq_some he
    exact ⟨file, place, chain, m, hm, hlast, m.records_entry file, hm.within_package⟩
  · simp only [enum_eq_ok]
    rw [← Table.mem_keys_iff_find?, henums.mem_keys, exists_comm]
  · rw [enum_eq_ok, enums_ofFiles hnames] at he
    obtain ⟨file, place, chain, x, hx, hlast, rfl⟩ := last_of_find?_rows Declared.enum?_eq_some he
    exact ⟨file, place, chain, x, hx, hlast, ⟨rfl, rfl⟩, hx.within_package⟩

/-! An instance: a map entry and an enum inside a message, a message that a second file declares
again, and a file without a package. -/

namespace Atlas

/-- The last field numbered 2 is the value. -/
def labelsEntry : Message where
  name := "LabelsEntry"
  fields := [
    { name := "key", number := 1, kind := .scalar .string },
    { name := "old", number := 2, kind := .scalar .bytes },
    { name := "value", number := 2, kind := .message, typeName := ".geo.Sheet" }]
  isMapEntry := true

def sheet : Message where
  name := "Sheet"
  nested := [labelsEntry]
  enums := [{ name := "Scale" }]

def first : File where
  name := "geo.proto"
  package := "geo"
  messages := [sheet]
  enums := [{ name := "Unit" }]

def second : File where
  name := "late.proto"
  package := "geo"
  messages := [{ name := "Sheet" }]

def third : File where
  name := "note.proto"
  messages := [{ name := "Note", enums := [{ name := "Tone" }] }]

def schemaSet : List File := [first, second, third]

end Atlas

theorem Index.ofFiles_holds_exactly_the_declarations_atlas :
    (∀ file place chain m,
      DeclaredIn Atlas.schemaSet file place chain (.message m) → m.name ≠ "") ∧
    (Index.ofFiles Atlas.schemaSet).Exact Atlas.schemaSet ∧
    (Index.ofFiles Atlas.schemaSet).message "geo.Sheet"
      = .ok ⟨"geo", "late.proto", false, none⟩ ∧
    (Index.ofFiles Atlas.schemaSet).message "geo.Sheet.LabelsEntry"
      = .ok ⟨"geo", "geo.proto", true, some ⟨⟨.scalar .string, ""⟩, ⟨.message, "geo.Sheet"⟩⟩⟩ ∧
    (Index.ofFiles Atlas.schemaSet).enums.keys = ["geo.Sheet.Scale", "geo.Unit", "Note.Tone"] := by
  have hnames : ∀ file place chain m,
      DeclaredIn Atlas.schemaSet file place chain (.message m) → m.name ≠ "" :=
    forall_hasName_iff.mp (by decide)
  exact ⟨hnames, ofFiles_holds_exactly_the_declarations Atlas.schemaSet hnames, by decide,
    by decide, by decide⟩

end RpcStubs
