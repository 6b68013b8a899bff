namespace SeriesCell

abbrev Bytes := List UInt8

theorem byte_to_nat (n : Nat) (small : n < 256) : (UInt8.ofNat n).toNat = n :=
  UInt8.toNat_ofNat_of_lt' small

def Bytes.split? (count : Nat) (b : Bytes) : Option (Bytes × Bytes) :=
  if count ≤ b.length then some (b.take count, b.drop count) else none

theorem Bytes.split?_eq_some {count : Nat} {b taken rest : Bytes}
    (h : b.split? count = some (taken, rest)) : b = taken ++ rest ∧ taken.length = count := by
  unfold Bytes.split? at h
  split at h
  · simp only [Option.some.injEq, Prod.mk.injEq] at h
    obtain ⟨rfl, rfl⟩ := h
    exact ⟨(List.take_append_drop count b).symm, by simp; omega⟩
  · exact absurd h (by simp)

theorem Bytes.split?_append (taken rest : Bytes) :
    Bytes.split? taken.length (taken ++ rest) = some (taken, rest) := by
  simp [Bytes.split?]

end SeriesCell
