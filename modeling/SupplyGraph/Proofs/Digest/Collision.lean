import SupplyGraph.Digest.Sha256

/-!
Collisions of digests. Writing a digest in hexadecimal loses nothing, so texts have the same written
digest only if they are equal or collide.
-/

namespace SupplyGraph.Sha256

/-- Two different texts have the same digest. -/
def Collide (left right : String) : Prop :=
  left ≠ right ∧ digest left.toUTF8.toList = digest right.toUTF8.toList

theorem hexDigit_injective {left right : UInt8} (hl : left < 16) (hr : right < 16)
    (h : hexDigit left = hexDigit right)
    : left = right := by
  have hall
      : ∀ left right : Fin 16,
          hexDigit (UInt8.ofNat left.val) = hexDigit (UInt8.ofNat right.val) → left = right := by
    decide
  have hdigits := hall ⟨left.toNat, hl⟩ ⟨right.toNat, hr⟩ (by simpa using h)
  exact UInt8.toNat_inj.mp (Fin.mk.inj hdigits)

/-- The two digits of an octet determine it. -/
theorem octet_injective {left right : UInt8}
    (hhigh : hexDigit (left / 16) = hexDigit (right / 16))
    (hlow : hexDigit (left % 16) = hexDigit (right % 16))
    : left = right := by
  have hdiv (octet : UInt8) : (octet / 16).toNat = octet.toNat / 16 := UInt8.toNat_div octet 16
  have hmod (octet : UInt8) : (octet % 16).toNat = octet.toNat % 16 := UInt8.toNat_mod octet 16
  have hsmall (octet : UInt8) : octet / 16 < 16 ∧ octet % 16 < 16 := by
    have := octet.toNat_lt
    rw [UInt8.lt_iff_toNat_lt, UInt8.lt_iff_toNat_lt, hdiv, hmod]
    change _ < 16 ∧ _ < 16
    omega
  have hquotient := hexDigit_injective (hsmall left).1 (hsmall right).1 hhigh
  have hremainder := hexDigit_injective (hsmall left).2 (hsmall right).2 hlow
  rw [← UInt8.toNat_inj, hdiv, hdiv] at hquotient
  rw [← UInt8.toNat_inj, hmod, hmod] at hremainder
  rw [← UInt8.toNat_inj]
  omega

/-- Octets are determined by their digits, by induction on the octets. -/
theorem hex_injective {left right : List UInt8} (h : hex left = hex right)
    : left = right := by
  rw [hex, hex, String.ofList_inj] at h
  induction left generalizing right with
  | nil =>
      cases right with
      | nil => rfl
      | cons octet rest => simp at h
  | cons octet rest ih =>
      cases right with
      | nil => simp at h
      | cons other tail =>
          simp only [List.flatMap_cons, List.cons_append, List.nil_append, List.cons.injEq] at h
          obtain ⟨hhigh, hlow, hrest⟩ := h
          rw [octet_injective hhigh hlow, ih hrest]

/-- Texts that do not collide have the same written digest only if they are equal. -/
theorem ofText_eq_iff {left right : String} (h : ¬ Collide left right)
    : ofText left = ofText right ↔ left = right := by
  constructor
  · intro hdigest
    exact Decidable.not_not.mp (fun hne => h ⟨hne, hex_injective hdigest⟩)
  · intro heq
    rw [heq]

end SupplyGraph.Sha256
