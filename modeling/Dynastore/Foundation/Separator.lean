/-! A list is split in one way at the last occurrence of a separator. -/

namespace Dynastore

theorem eq_of_append_separator (absent : separator ∉ last) (absent' : separator ∉ last')
    (eq : front ++ separator :: last = front' ++ separator :: last') :
    front = front' ∧ last = last' := by
  rcases List.append_eq_append_iff.mp eq with ⟨middle, rfl, tail⟩ | ⟨middle, rfl, tail⟩
  · cases middle with
    | nil => simpa using tail
    | cons =>
      obtain ⟨_, rfl⟩ := List.cons.inj tail
      exact absurd (by simp) absent
  · cases middle with
    | nil => simpa using tail.symm
    | cons =>
      obtain ⟨_, rfl⟩ := List.cons.inj tail
      exact absurd (by simp) absent'

theorem eq_of_append_text {front front' last last' : String} (single : separator.toList = [symbol])
    (absent : symbol ∉ last.toList) (absent' : symbol ∉ last'.toList)
    (eq : front ++ separator ++ last = front' ++ separator ++ last') :
    front = front' ∧ last = last' := by
  have texts := congrArg String.toList eq
  simp only [String.toList_append, single, List.append_assoc, List.singleton_append] at texts
  have ⟨fronts, lasts⟩ := eq_of_append_separator absent absent' texts
  exact ⟨String.toList_injective fronts, String.toList_injective lasts⟩

/-- A decimal numeral holds digits only. -/
theorem not_mem_repr (noDigit : separator.isDigit = false) (number : Nat) :
    separator ∉ (toString number).toList := by
  intro mem
  have digits : separator ∈ Nat.toDigits 10 number := by
    simpa [toString, Nat.repr] using mem
  have digit := Nat.isDigit_of_mem_toDigits (by decide) (by decide) digits
  rw [noDigit] at digit
  cases digit

theorem toString_inj {left right : Nat} (eq : toString left = toString right) :
    left = right := by
  have digits : Nat.toDigits 10 left = Nat.toDigits 10 right := by
    simpa [Nat.toString_eq_ofList_toDigits] using congrArg String.toList eq
  have numbers := congrArg (Nat.ofDigitChars 10 · 0) digits
  simpa [Nat.ofDigitChars_toDigits] using numbers

end Dynastore
