/-
# Settings asked for by a parameter

A request carries its settings as text: parts between commas, each a key and a
value.  Read back, the parts for "no messages" and for a package give exactly
these settings, in whichever order they stand.

The text limits what a package can be called.  The name must have no comma,
which would end the part; no white space at its ends, which is trimmed; and it
must not be empty, which is an error.  An equals sign does no harm, as the key
ends at the first one.
-/
import RpcStubs.Proofs.ParameterParts

namespace RpcStubs

namespace Settings

/-- A package that can be named in a parameter. -/
structure PackageName (name : String) : Prop where
  ne_empty : name ≠ ""
  comma_notMem : ',' ∉ name.toList
  first : ∀ c ∈ name.toList.head?, Text.isBlank c = false
  last : ∀ c ∈ name.toList.getLast?, Text.isBlank c = false

/-- The parts of a parameter that switch messages off and name a package. -/
def parts (emitMessages : Bool) (package : Option String) : List String :=
  (if emitMessages then [] else ["messages=false"])
    ++ package.toList.map fun name => "wkt_package=" ++ name

/-- What these parts set. -/
def assignments (emitMessages : Bool) (package : Option String) : List Assignment :=
  (if emitMessages then [] else [.messages false]) ++ package.toList.map .package

/-- The settings that they ask for. -/
def asked (emitMessages : Bool) (package : Option String) : Settings :=
  { emitMessages, wellKnown := WellKnown.table (package.getD WellKnown.defaultPackage) }

theorem readPart_messages : readPart "messages=false".toList = .ok (some (.messages false)) := rfl

theorem readPart_package {name : String} (h : PackageName name) :
    readPart ("wkt_package=" ++ name).toList = .ok (some (.package name)) := by
  have hkeyed : Keyed ("wkt_package=" ++ name).toList "wkt_package" name.toList := by
    refine ⟨"wkt_package".toList, ⟨by decide, .inl ?_⟩, Text.trimsTo_iff.mpr rfl⟩
    rw [String.toList_append]
    rfl
  have htrim : Text.TrimsTo name.toList name.toList :=
    Text.trimsTo_iff.mpr (Text.trimChars_eq_self h.first h.last)
  exact (Means.package hkeyed htrim h.ne_empty).readPart_eq

theorem foldlM_applyPart {ps : List String} {as : List Assignment}
    (h : List.Forall₂ (fun p a => readPart p.toList = .ok (some a)) ps as) (s : Settings) :
    (ps.map String.toList).foldlM applyPart s = .ok (as.foldl assign s) := by
  have hmeans : List.Forall₂ Means (ps.map String.toList) (as.map some) := by
    simpa only [List.forall₂_map_left_iff, List.forall₂_map_right_iff, ← readPart_eq_ok_iff] using h
  rw [foldlM_applyPart_of_means hmeans, List.foldl_map]
  rfl

theorem ofParameter_intercalate {ps : List String} (h : ∀ p ∈ ps, ',' ∉ p.toList) :
    ofParameter (",".intercalate ps) = (ps.map String.toList).foldlM applyPart {} := by
  rw [ofParameter, String.toList_intercalate]
  cases ps with
  | nil => rfl
  | cons p ps =>
      have hpieces : Text.pieces ',' (",".toList.intercalate ((p :: ps).map String.toList))
          = (p :: ps).map String.toList :=
        Text.pieces_intercalate (by simp) (List.forall_mem_map.mpr h)
      rw [hpieces]

section Parts

variable {emitMessages : Bool} {package : Option String}
  (hpackage : ∀ name ∈ package, PackageName name)
include hpackage

theorem comma_notMem_parts : ∀ p ∈ parts emitMessages package, ',' ∉ p.toList := by
  intro p hp
  rcases List.mem_append.mp hp with hp | hp
  · cases emitMessages with
    | true => cases hp
    | false =>
        rw [List.mem_singleton.mp hp]
        decide
  · obtain ⟨name, hname, rfl⟩ := List.mem_map.mp hp
    rw [String.toList_append, List.mem_append, not_or]
    exact ⟨by decide, (hpackage name (Option.mem_toList.mp hname)).comma_notMem⟩

theorem readPart_parts :
    List.Forall₂ (fun p a => readPart p.toList = .ok (some a)) (parts emitMessages package)
      (assignments emitMessages package) := by
  refine List.rel_append ?_ ?_
  · cases emitMessages with
    | true => exact .nil
    | false => exact .cons readPart_messages .nil
  · cases package with
    | none => exact .nil
    | some name => exact .cons (readPart_package (hpackage name rfl)) .nil

/-- The parts for given settings, in either order, are read as these settings. -/
theorem ofParameter_parts {ps : List String}
    (hps : ps = parts emitMessages package ∨ ps = (parts emitMessages package).reverse) :
    ofParameter (",".intercalate ps) = .ok (asked emitMessages package) := by
  rcases hps with rfl | rfl
  · rw [ofParameter_intercalate (comma_notMem_parts hpackage),
      foldlM_applyPart (readPart_parts hpackage)]
    cases emitMessages <;> cases package <;> rfl
  · rw [ofParameter_intercalate fun p hp => comma_notMem_parts hpackage p (List.mem_reverse.mp hp),
      foldlM_applyPart (List.rel_reverse (readPart_parts hpackage))]
    cases emitMessages <;> cases package <;> rfl

end Parts

end Settings

end RpcStubs
