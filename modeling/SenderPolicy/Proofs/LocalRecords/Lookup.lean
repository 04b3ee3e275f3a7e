import Mathlib.Data.List.Basic
import SenderPolicy.Proofs.LocalRecords.History

/-!
# Finding local records

A domain is given the text that stands under its own name, or else the text for all names inside
a domain around it, the smallest such domain first. `Finds` says so of a row of calls, without
the search that the store makes.
-/

namespace SenderPolicy.LocalRecords

/-! ## Domains around a name -/

theorem mem_enclosing_iff {name outer : Text} :
    outer ∈ enclosing name ↔ ∃ front, name = front ++ '.' :: outer := by
  induction name with
  | nil => simp [enclosing]
  | cons c rest inductionHypothesis =>
      have later : outer ∈ enclosing rest ↔ ∃ front, c :: rest = (c :: front) ++ '.' :: outer := by
        simp [inductionHypothesis]
      rw [enclosing]
      constructor
      · intro member
        split at member
        · rename_i dot
          rcases List.mem_cons.mp member with rfl | member
          · exact ⟨[], by rw [dot, List.nil_append]⟩
          · obtain ⟨front, parts⟩ := later.mp member
            exact ⟨_, parts⟩
        · obtain ⟨front, parts⟩ := later.mp member
          exact ⟨_, parts⟩
      · rintro ⟨front, parts⟩
        cases front with
        | nil =>
            obtain ⟨rfl, rfl⟩ := List.cons.inj parts
            simp
        | cons d front =>
            obtain ⟨rfl, rest⟩ := List.cons.inj parts
            have member := later.mpr ⟨front, parts⟩
            split
            · exact List.mem_cons_of_mem _ member
            · exact member

/-- The domains around a name come from the longest to the shortest. -/
theorem pairwise_enclosing (name : Text) :
    (enclosing name).Pairwise fun near far => far.length < near.length := by
  induction name with
  | nil => exact List.Pairwise.nil
  | cons c rest inductionHypothesis =>
      rw [enclosing]
      split
      · refine List.pairwise_cons.mpr ⟨fun outer member => ?_, inductionHypothesis⟩
        obtain ⟨front, rfl⟩ := mem_enclosing_iff.mp member
        simp only [List.length_append, List.length_cons]
        omega
      · exact inductionHypothesis

/-! ## What is found -/

/-- The name under which a record is kept for all that is inside a domain. -/
def wildcard (domain : Text) : Text :=
  "*.".toList ++ domain

/-- What a row of calls has for a name. -/
inductive Finds (calls : List Call) (name : Text) : Option Text → Prop where
  | own {kept : Text} (stands : Stands calls name kept) : Finds calls name (some kept)
  | around {front outer kept : Text} (noOwn : ∀ other, ¬ Stands calls name other)
      (inside : name = front ++ '.' :: outer) (stands : Stands calls (wildcard outer) kept)
      (nearest : ∀ before farther other, name = before ++ '.' :: farther →
        Stands calls (wildcard farther) other → farther.length ≤ outer.length) :
      Finds calls name (some kept)
  | nothing (noOwn : ∀ other, ¬ Stands calls name other)
      (noneAround : ∀ front outer other, name = front ++ '.' :: outer →
        ¬ Stands calls (wildcard outer) other) : Finds calls name none

section
variable {calls : List Call} {name : Text}

theorem Stands.unique {kept other : Text} (one : Stands calls name kept)
    (two : Stands calls name other) : kept = other :=
  Option.some.inj ((get?_ofCalls_iff.mpr one).symm.trans (get?_ofCalls_iff.mpr two))

theorem Finds.unique {found other : Option Text} (one : Finds calls name found)
    (two : Finds calls name other) : found = other := by
  cases one with
  | own stands =>
      cases two with
      | own otherStands => rw [stands.unique otherStands]
      | around noOwn => exact absurd stands (noOwn _)
      | nothing noOwn => exact absurd stands (noOwn _)
  | @around front outer kept noOwn inside stands nearest =>
      cases two with
      | own otherStands => exact absurd otherStands (noOwn _)
      | @around before farther otherKept _ otherInside otherStands otherNearest =>
          have same : outer.length = farther.length :=
            Nat.le_antisymm (otherNearest _ _ _ inside stands)
              (nearest _ _ _ otherInside otherStands)
          have tails := List.append_inj' (inside.symm.trans otherInside) (by simp [same])
          obtain rfl : outer = farther := (List.cons.inj tails.2).2
          rw [stands.unique otherStands]
      | nothing _ noneAround => exact absurd stands (noneAround _ _ _ inside)
  | nothing noOwn noneAround =>
      cases two with
      | own otherStands => exact absurd otherStands (noOwn _)
      | around _ inside stands => exact absurd stands (noneAround _ _ _ inside)
      | nothing => rfl

/-- What is found can be read as a record. -/
theorem Finds.reads {kept : Text} (finds : Finds calls name (some kept)) :
    ∃ record, Record.read kept = .ok record := by
  cases finds with
  | own stands => exact stands.reads
  | around _ _ stands => exact stands.reads

end

/-- The search of the store finds what the row of calls has for the name. -/
theorem finds_find? (calls : List Call) (domain : Text) :
    Finds calls (Domain.normal domain) ((ofCalls calls).find? domain) := by
  simp only [find?]
  generalize Domain.normal domain = name
  cases own : (ofCalls calls).get? name with
  | some kept => exact .own (get?_ofCalls_iff.mp own)
  | none =>
      have noOwn := get?_ofCalls_eq_none_iff.mp own
      simp only [Option.orElse_eq_orElse, Option.orElse_eq_or, Option.none_or]
      cases search : (enclosing name).findSome? fun outer =>
          (ofCalls calls).get? ("*.".toList ++ outer) with
      | none =>
          refine .nothing noOwn fun front outer other inside => ?_
          have missing := List.findSome?_eq_none_iff.mp search outer
            (mem_enclosing_iff.mpr ⟨front, inside⟩)
          exact get?_ofCalls_eq_none_iff.mp missing other
      | some kept =>
          obtain ⟨nearer, outer, rest, row, found, missing⟩ :=
            List.findSome?_eq_some_iff.mp search
          have member : outer ∈ enclosing name := by simp [row]
          obtain ⟨front, inside⟩ := mem_enclosing_iff.mp member
          refine .around noOwn inside (get?_ofCalls_iff.mp found) ?_
          intro before farther other otherInside stands
          -- What stands for a domain around the name is not among those passed over.
          have otherMember := mem_enclosing_iff.mpr ⟨before, otherInside⟩
          have order := pairwise_enclosing name
          rw [row] at otherMember order
          rcases List.mem_append.mp otherMember with passed | listed
          · exact absurd stands (get?_ofCalls_eq_none_iff.mp (missing farther passed) other)
          · rcases List.mem_cons.mp listed with rfl | later
            · exact Nat.le_refl _
            · have ordered := List.pairwise_cons.mp (List.pairwise_append.mp order).2.1
              exact Nat.le_of_lt (ordered.1 farther later)

theorem find?_ofCalls_eq_iff {calls : List Call} {domain : Text} {found : Option Text} :
    (ofCalls calls).find? domain = found ↔ Finds calls (Domain.normal domain) found :=
  ⟨fun same => same ▸ finds_find? calls domain, (finds_find? calls domain).unique⟩

/-- A record for all that is inside a domain is not for the domain itself. -/
theorem find?_add_wildcard {records after : LocalRecords} {host domain text : Text}
    (around : Domain.normal host = wildcard (Domain.normal domain))
    (added : records.add host text = .ok after) : after.find? domain = records.find? domain := by
  have longer : ∀ {outer}, outer.length < (wildcard (Domain.normal domain)).length →
      after.get? outer = records.get? outer := by
    intro outer shorter
    have other : outer ≠ Domain.normal host := by
      rintro rfl
      rw [around] at shorter
      exact Nat.lt_irrefl _ shorter
    cases reads : Record.read text with
    | error failure =>
        rw [add_of_error reads] at added
        cases added
    | ok record =>
        rw [add_of_ok reads] at added
        cases added
        rw [get?_cons, if_neg other]
        exact get?_erase.trans (if_neg other)
  have own : after.get? (Domain.normal domain) = records.get? (Domain.normal domain) := by
    apply longer
    simp only [wildcard, List.length_append]
    exact Nat.lt_add_of_pos_left (by decide)
  have outside : ∀ outer ∈ enclosing (Domain.normal domain),
      after.get? ("*.".toList ++ outer) = records.get? ("*.".toList ++ outer) := by
    intro outer member
    obtain ⟨front, parts⟩ := mem_enclosing_iff.mp member
    apply longer
    rw [parts]
    simp only [wildcard, List.length_append, List.length_cons]
    omega
  have searches := congrArg (List.findSome? id) (List.map_congr_left outside)
  rw [List.findSome?_map, List.findSome?_map] at searches
  simp only [find?, own]
  exact congrArg _ (funext fun _ => searches)

end SenderPolicy.LocalRecords
