/-! Counts of units, which never pass 2^32 - 1. -/
namespace Fulfilment

structure Units where
  count : Nat
  count_le : count ≤ 4294967295
deriving DecidableEq

namespace Units

def most : Units := ⟨4294967295, by decide⟩

def zero : Units := ⟨0, by decide⟩

def ofNat? (n : Nat) : Option Units :=
  if small : n ≤ 4294967295 then some ⟨n, small⟩ else none

instance (n : Nat) : OfNat Units n := ⟨min n 4294967295, Nat.min_le_right _ _⟩

/-- The nearest count of units: none for a negative number, the most for one beyond them. -/
def nearest (n : Int) : Units := (ofNat? (max n 0).toNat).getD most

/-- A sum stops at the largest count. -/
instance : Add Units :=
  ⟨fun a b => ⟨min (a.count + b.count) 4294967295, Nat.min_le_right _ _⟩⟩

/-- What is left of a count after taking away another, or nothing. -/
instance : Sub Units :=
  ⟨fun a b => ⟨a.count - b.count, Nat.le_trans (Nat.sub_le _ _) a.count_le⟩⟩

def upTo (a : Units) (limit : Nat) : Units :=
  ⟨min a.count limit, Nat.le_trans (Nat.min_le_left _ _) a.count_le⟩

theorem count_nearest (n : Int) : (nearest n).count = min n.toNat 4294967295 := by
  unfold nearest ofNat?
  split
  · simp only [Option.getD_some]
    omega
  · simp only [Option.getD_none, most]
    omega

theorem ext_count {a b : Units} (same : a.count = b.count) : a = b := by
  cases a; cases b; simp_all

@[simp] theorem count_add (a b : Units) : (a + b).count = min (a.count + b.count) 4294967295 := rfl

@[simp] theorem count_sub (a b : Units) : (a - b).count = a.count - b.count := rfl

@[simp] theorem count_upTo (a : Units) (limit : Nat) : (a.upTo limit).count = min a.count limit := rfl

@[simp] theorem count_zero : zero.count = 0 := rfl

@[simp] theorem count_most : most.count = 4294967295 := rfl

end Units
end Fulfilment
