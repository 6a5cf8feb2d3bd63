import Mathlib.Data.List.Basic

/-!
# Wires

A wire takes the items of a source one after the other and delivers or loses each of
them.  The source only grows at its end.  What was delivered is then a sublist of the
source: nothing is altered, repeated or overtaken.
-/

namespace Telling.Lib

universe u v

/-- A filter that keeps less gives a sublist. -/
theorem filterMap_sublist_filterMap {α : Type u} {β : Type v} {keeps other : α → Option β}
    (fewer : ∀ element image, keeps element = some image → other element = some image)
    (elements : List α) : (elements.filterMap keeps).Sublist (elements.filterMap other) := by
  induction elements with
  | nil => exact List.nil_sublist _
  | cons element elements ih =>
      cases kept : keeps element with
      | none =>
          rw [List.filterMap_cons_none kept]
          refine ih.trans (List.Sublist.filterMap _ ?_)
          exact List.sublist_cons_self element elements
      | some image =>
          rw [List.filterMap_cons_some kept,
            List.filterMap_cons_some (fewer element image kept)]
          exact ih.cons_cons image

structure Wire (Item : Type u) where
  /-- How many items were delivered or lost. -/
  carried : Nat := 0
  delivered : List Item := []
  deriving DecidableEq, Repr

namespace Wire

variable {Item : Type u}

/-- The item that comes next. -/
def next (wire : Wire Item) (source : List Item) : Option Item := source[wire.carried]?

def deliver (wire : Wire Item) (item : Item) : Wire Item where
  carried := wire.carried + 1
  delivered := wire.delivered ++ [item]

def lose (wire : Wire Item) : Wire Item := { wire with carried := wire.carried + 1 }

structure Faithful (wire : Wire Item) (source : List Item) : Prop where
  within : wire.carried ≤ source.length
  ordered : wire.delivered.Sublist (source.take wire.carried)

/-- Every item of the source was delivered. -/
def Exhausted (wire : Wire Item) (source : List Item) : Prop :=
  wire.delivered.length = wire.carried ∧ wire.carried = source.length

instance (wire : Wire Item) (source : List Item) : Decidable (wire.Exhausted source) :=
  inferInstanceAs (Decidable (_ ∧ _))

variable {wire : Wire Item} {source longer : List Item} {item : Item}

theorem faithful_empty (source : List Item) : Faithful {} source where
  within := Nat.zero_le _
  ordered := List.nil_sublist _

theorem next_of_prefix (grown : source <+: longer) (comes : wire.next source = some item) :
    wire.next longer = some item := by
  obtain ⟨rest, rfl⟩ := grown
  have inside := (List.getElem?_eq_some_iff.mp comes).1
  rw [next, List.getElem?_append_left inside]
  exact comes

namespace Faithful

theorem deliver (faithful : wire.Faithful source) (comes : wire.next source = some item) :
    (wire.deliver item).Faithful source where
  within := (List.getElem?_eq_some_iff.mp comes).1
  ordered := by
    have taken : source.take (wire.carried + 1) = source.take wire.carried ++ [item] := by
      rw [List.take_add_one, show source[wire.carried]? = some item from comes]
      rfl
    exact taken ▸ faithful.ordered.append (List.Sublist.refl [item])

theorem lose (faithful : wire.Faithful source) (comes : wire.next source = some item) :
    wire.lose.Faithful source where
  within := (List.getElem?_eq_some_iff.mp comes).1
  ordered := faithful.ordered.trans (List.take_sublist_take_left (Nat.le_succ _))

theorem grow (faithful : wire.Faithful source) (grown : source <+: longer) :
    wire.Faithful longer := by
  obtain ⟨rest, rfl⟩ := grown
  constructor
  · rw [List.length_append]
    exact Nat.le_add_right_of_le faithful.within
  · rw [List.take_append_of_le_length faithful.within]
    exact faithful.ordered

theorem sublist (faithful : wire.Faithful source) : wire.delivered.Sublist source :=
  faithful.ordered.trans (List.take_sublist _ _)

theorem delivered_eq (faithful : wire.Faithful source) (exhausted : wire.Exhausted source) :
    wire.delivered = source :=
  faithful.sublist.eq_of_length (exhausted.1.trans exhausted.2)

end Faithful

end Wire

end Telling.Lib
