/-!
# Computations that may fail

A sequence of computations succeeds when both of its parts do, and fails with the first error.
-/

namespace CodeViewer

variable {ε δ α β : Type}

/-- A sequence succeeds through the value of its first part. -/
theorem bind_eq_ok {x : Except ε α} {f : α → Except ε β} {b : β} :
    (x >>= f) = .ok b ↔ ∃ a, x = .ok a ∧ f a = .ok b := by
  cases x with
  | error e => simp [bind, Except.bind]
  | ok a => simp [bind, Except.bind]

/-- A value is not touched by a function on errors. -/
theorem mapError_eq_ok {x : Except ε α} {f : ε → δ} {a : α} :
    x.mapError f = .ok a ↔ x = .ok a := by
  cases x with
  | error e =>
    constructor
    · intro h
      cases h
    · intro h
      cases h
  | ok b =>
    change Except.ok b = Except.ok a ↔ _
    simp only [Except.ok.injEq]

/-- An error that is passed through a function comes from one. -/
theorem mapError_eq_error {x : Except ε α} {f : ε → δ} {d : δ} :
    x.mapError f = .error d ↔ ∃ e, x = .error e ∧ f e = d := by
  constructor
  · intro h
    cases x with
    | error e => exact ⟨e, rfl, Except.error.inj h⟩
    | ok a => cases h
  · rintro ⟨e, rfl, rfl⟩
    rfl

/-! ### What a computation may come to -/

/-- The errors a computation may fail with are as `E` says, its values as `P` says. -/
def Yields (x : Except ε α) (E : ε → Prop) (P : α → Prop) : Prop :=
  match x with
  | .error e => E e
  | .ok a => P a

namespace Yields

variable {x : Except ε α} {E : ε → Prop} {P : α → Prop}

/-- A value is a computation that fails in no way. -/
theorem of_ok {a : α} (h : P a) : Yields (.ok a : Except ε α) E P := h

/-- Every computation comes to something. -/
theorem anything (x : Except ε α) : Yields x (fun _ ↦ True) (fun _ ↦ True) := by
  cases x with
  | error e => trivial
  | ok a => trivial

/-- An error that comes up is as it should be. -/
theorem error (h : Yields x E P) {e : ε} (he : x = .error e) : E e := by
  subst he
  exact h

/-- A value that comes out is as it should be. -/
theorem ok (h : Yields x E P) {a : α} (ha : x = .ok a) : P a := by
  subst ha
  exact h

/-- In a sequence the second part starts from a value of the first. -/
theorem bind {f : α → Except ε β} {Q : β → Prop} (h : Yields x E P)
    (hf : ∀ a, P a → Yields (f a) E Q) : Yields (x >>= f) E Q := by
  cases x with
  | error e => exact h
  | ok a => exact hf a h

/-- A value that is handed on as an optional one is as it was. -/
theorem bind_some (h : Yields x E P) :
    Yields (x >>= fun a ↦ pure (some a)) E fun r ↦ ∀ a ∈ r, P a :=
  h.bind fun _ ha _ hmem ↦ Option.some.inj hmem ▸ ha

/-- What holds of the values may be weakened. -/
theorem imp {Q : α → Prop} (h : Yields x E P) (hpq : ∀ a, P a → Q a) : Yields x E Q := by
  cases x with
  | error e => exact h
  | ok a => exact hpq a h

/-- The values behind a function are as those in front of it. -/
theorem map {f : α → β} {Q : β → Prop} (h : Yields x E (fun a ↦ Q (f a))) :
    Yields (x.map f) E Q := by
  cases x with
  | error e => exact h
  | ok a => exact h

/-- What holds of the errors may be weakened. -/
theorem imp_error {E' : ε → Prop} (h : Yields x E P) (he : ∀ e, E e → E' e) : Yields x E' P := by
  cases x with
  | error e => exact he e h
  | ok a => exact h

end Yields

/-! ### Computations that succeed -/

/-- A computation succeeds with a value that is as `P` says. -/
def Succeeds (x : Except ε α) (P : α → Prop) : Prop := ∃ a, x = .ok a ∧ P a

namespace Succeeds

variable {x : Except ε α} {P : α → Prop}

/-- A value is a computation that succeeds. -/
theorem of_ok {a : α} (h : P a) : Succeeds (.ok a : Except ε α) P := ⟨a, rfl, h⟩

/-- A computation whose value passes a test succeeds. -/
theorem of_any {test : α → Bool} (h : x.toOption.any test = true) : Succeeds x (test · = true) := by
  cases x with
  | error e => cases h
  | ok a => exact .of_ok h

/-- In a sequence the second part starts from a value of the first. -/
theorem bind {f : α → Except ε β} {Q : β → Prop} (h : Succeeds x P)
    (hf : ∀ a, P a → Succeeds (f a) Q) : Succeeds (x >>= f) Q := by
  obtain ⟨a, rfl, ha⟩ := h
  exact hf a ha

/-- What holds of the value may be weakened. -/
theorem imp {Q : α → Prop} (h : Succeeds x P) (hpq : ∀ a, P a → Q a) : Succeeds x Q := by
  obtain ⟨a, ha, hp⟩ := h
  exact ⟨a, ha, hpq a hp⟩

/-- A value that is handed on as an optional one is there. -/
theorem bind_some (h : Succeeds x P) :
    Succeeds (x >>= fun a ↦ pure (some a)) fun r ↦ ∃ a, r = some a ∧ P a :=
  h.bind fun a ha ↦ of_ok ⟨a, rfl, ha⟩

/-- A value that comes out is as it should be. -/
theorem ok (h : Succeeds x P) {a : α} (ha : x = .ok a) : P a := by
  obtain ⟨b, hb, hp⟩ := h
  rw [ha] at hb
  cases hb
  exact hp

/-- A computation that succeeds fails in no way. -/
theorem yields {E : ε → Prop} (h : Succeeds x P) : Yields x E P := by
  obtain ⟨a, rfl, ha⟩ := h
  exact ha

/-- A list is gone through to its end if there is a value for each of its elements. -/
theorem mapM {f : β → Except ε α} {bs : List β} (h : ∀ b ∈ bs, ∃ a, f b = .ok a) :
    ∃ as, bs.mapM f = .ok as := by
  induction bs with
  | nil => exact ⟨[], rfl⟩
  | cons b bs ih =>
    obtain ⟨a, ha⟩ := h b List.mem_cons_self
    obtain ⟨as, has⟩ := ih fun b' hb' ↦ h b' (List.mem_cons_of_mem _ hb')
    exact ⟨a :: as, by rw [List.mapM_cons, ha, has]; rfl⟩

/-- A list is gone through to its end, and each value belongs to one of its elements. -/
theorem mapM_each {f : β → Except ε α} {P : β → α → Prop} {bs : List β}
    (h : ∀ b ∈ bs, Succeeds (f b) (P b)) :
    Succeeds (bs.mapM f) fun as ↦ (∀ a ∈ as, ∃ b ∈ bs, P b a) ∧ ∀ b ∈ bs, ∃ a ∈ as, P b a := by
  induction bs with
  | nil => exact of_ok ⟨fun a ha ↦ (nomatch ha), fun b hb ↦ (nomatch hb)⟩
  | cons b bs ih =>
    rw [List.mapM_cons]
    refine (h b List.mem_cons_self).bind fun a ha ↦ ?_
    refine (ih fun b' hb' ↦ h b' (List.mem_cons_of_mem _ hb')).bind fun as ⟨hback, hforth⟩ ↦ ?_
    refine of_ok ⟨fun a' ha' ↦ ?_, fun b' hb' ↦ ?_⟩
    · rcases List.mem_cons.mp ha' with rfl | ha'
      · exact ⟨b, List.mem_cons_self, ha⟩
      · exact (hback a' ha').imp fun b' hb' ↦ ⟨List.mem_cons_of_mem _ hb'.1, hb'.2⟩
    · rcases List.mem_cons.mp hb' with rfl | hb'
      · exact ⟨a, List.mem_cons_self, ha⟩
      · exact (hforth b' hb').imp fun a' ha' ↦ ⟨List.mem_cons_of_mem _ ha'.1, ha'.2⟩

end Succeeds

/-! ### Computations that check a condition -/

/-- A computation succeeds exactly if `C` holds; its errors are as `E` says. -/
def Checks (x : Except ε α) (C : Prop) (E : ε → Prop) : Prop :=
  Yields x (fun e ↦ ¬ C ∧ E e) (fun _ ↦ C)

namespace Checks

variable {x : Except ε α} {C D : Prop} {E : ε → Prop}

/-- A computation that always succeeds checks nothing. -/
theorem of_ok {a : α} (hc : C) : Checks (.ok a : Except ε α) C E := hc

/-- A computation that always fails finds the condition violated. -/
theorem of_error {e : ε} (hc : ¬ C) (he : E e) : Checks (.error e : Except ε α) C E := ⟨hc, he⟩

/-- An equivalent condition is checked as well. -/
theorem congr (h : Checks x C E) (hcd : C ↔ D) : Checks x D E := by
  rwa [← propext hcd]

/-- A sequence checks both conditions. -/
theorem bind {f : α → Except ε β} (h : Checks x C E) (hf : ∀ a, Checks (f a) D E) :
    Checks (x >>= f) (C ∧ D) E := by
  cases x with
  | error e => exact ⟨fun hcd ↦ h.1 hcd.1, h.2⟩
  | ok a =>
    have hc : C := h
    exact (hf a).congr ⟨fun hd ↦ ⟨hc, hd⟩, fun hcd ↦ hcd.2⟩

/-- A function on the values changes nothing. -/
theorem map {f : α → β} (h : Checks x C E) : Checks (x.map f) C E := by
  cases x with
  | error e => exact h
  | ok a => exact h

/-- What holds of the errors may be weakened. -/
theorem imp_error {E' : ε → Prop} (h : Checks x C E) (he : ∀ e, E e → E' e) : Checks x C E' :=
  Yields.imp_error h fun e hce ↦ ⟨hce.1, he e hce.2⟩

end Checks

end CodeViewer
