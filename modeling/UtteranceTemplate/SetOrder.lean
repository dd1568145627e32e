import UtteranceTemplate.Scalar

/-!
The order in which the members of a set are shown.

A set of numbers is a table of slots: a number lies in the slot that its hash
gives, or in a later one if that is taken, and the members are shown slot by slot.
Equal numbers have equal hashes, whatever their types. The members of other sets
are shown as they came.
-/

namespace UtteranceTemplate

namespace Scalar

/-- The modulus of the hashes of numbers, a Mersenne prime. -/
def hashModulus : Nat := Decimal.twoTo 61 - 1

/-- The hash of a finite number: its remainder by the modulus, with its sign. As `2 ^
61` has the remainder 1, only the remainder of the exponent by 61 counts. -/
def Dyadic.hash (x : Dyadic) : Int :=
  let size : Int :=
    x.mantissa.natAbs * Decimal.twoTo (x.exponent % 61).toNat % hashModulus
  let signed := if x.mantissa < 0 then -size else size
  if signed = -1 then -2 else signed

/-- The hash of an infinite number that is not negative. -/
def infinityHash : Int := 314159

/-- The hash of a number, unless it is undefined. -/
def hash? (s : Scalar) : Option Int :=
  match s.number? with
  | some x => some x.hash
  | none =>
      match s with
      | .float x =>
          if x.isNaN then none
          else some (if x < 0 then -infinityHash else infinityHash)
      | _ => none

end Scalar

namespace SetOrder

/-- The slots behind a slot that are tried before a jump. -/
def probes : Nat := 9

/-- The first free slot on the way of a hash through `size` slots. Jumps follow
`perturb`, which fades out; from then on they come to every slot, so `size` jumps and
those before are fuel enough if any slot is free. -/
def freeSlot (size : Nat) (taken : List Nat) :
    (fuel : Nat) → (slot perturb : Nat) → Nat
  | 0, slot, _ => slot
  | fuel + 1, slot, perturb =>
      let near := if slot + probes < size then probes else 0
      match (List.range' slot (near + 1)).find? (!taken.contains ·) with
      | some free => free
      | none =>
          let perturb := perturb / 32
          freeSlot size taken fuel ((slot * 5 + 1 + perturb) % size) perturb

/-- The number of slots for a number of members: 8, and more than twice the number
if it exceeds 4. -/
def slotCount (members : Nat) : Nat :=
  if members ≤ 4 then 8 else Decimal.twoTo (Nat.log2 (2 * members) + 1)

/-- The slots of hashes, each put in after those before it and after the slots
that are taken. -/
def slotsAfter (size : Nat) (taken : List Nat) : List Int → List Nat
  | [] => []
  | hash :: rest =>
      let perturb := (hash % Decimal.twoTo 64).toNat
      let slot := freeSlot size taken (size + 13) (perturb % size) perturb
      slot :: slotsAfter size (slot :: taken) rest

def slots (hashes : List Int) : List Nat :=
  slotsAfter (slotCount hashes.length) [] hashes

def shown (members : List Scalar) : List Scalar :=
  match members.mapM Scalar.hash? with
  | none => members
  | some hashes =>
      let slotted := (slots hashes).zip members
      (slotted.mergeSort fun left right => left.1 ≤ right.1).map (·.2)

theorem length_slotsAfter (size : Nat) (taken : List Nat) (hashes : List Int) :
    (slotsAfter size taken hashes).length = hashes.length := by
  induction hashes generalizing taken with
  | nil => rfl
  | cons hash rest ih => simp [slotsAfter, ih]

theorem length_of_mapM_eq_some {α β : Type} {f : α → Option β} {items : List α}
    {results : List β} (h : items.mapM f = some results) :
    results.length = items.length := by
  induction items generalizing results with
  | nil =>
      simp only [List.mapM_nil, Option.pure_def, Option.some.injEq] at h
      simp [← h]
  | cons item rest ih =>
      simp only [List.mapM_cons, Option.bind_eq_bind, Option.pure_def,
        Option.bind_eq_some_iff, Option.some.injEq] at h
      obtain ⟨result, _, others, hothers, rfl⟩ := h
      simp [ih hothers]

/-- The order changes nothing but the order. -/
theorem shown_perm (members : List Scalar) : (shown members).Perm members := by
  unfold shown
  split
  · exact List.Perm.refl members
  · rename_i hashes h
    have hlength : (slots hashes).length = members.length :=
      (length_slotsAfter _ _ _).trans (length_of_mapM_eq_some h)
    have hmembers : ((slots hashes).zip members).map (·.2) = members :=
      List.map_snd_zip (Nat.le_of_eq hlength.symm)
    exact ((List.mergeSort_perm _ _).map _).trans (List.Perm.of_eq hmembers)

end SetOrder

end UtteranceTemplate
