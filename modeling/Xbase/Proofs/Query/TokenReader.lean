import Xbase.Query.Grammar
/-!
# Token readers

What the steps that readers are made of do to the tokens, and how a reader that succeeds comes apart into
its steps.
-/
namespace Xbase.Query.Grammar

variable {α β : Type} {tokens rest : List Token}

@[simp] theorem head_nil : head [] = .eof := rfl

@[simp] theorem head_cons (t : Token) : head (t :: tokens) = t := rfl

theorem exists_cons_of_head_eq {t : Token} (ht : t ≠ .eof) (h : head tokens = t) :
    ∃ tail, tokens = t :: tail := by
  cases tokens with
  | nil => exact absurd h.symm ht
  | cons s tail => exact ⟨tail, by rw [← h, head_cons]⟩

@[simp] theorem pure_apply (a : α) : (pure a : TokenReader α) tokens = .ok a tokens := rfl

@[simp] theorem current_bind (f : Token → TokenReader β) :
    (current >>= f) tokens = f (head tokens) tokens := rfl

@[simp] theorem peek_bind (f : Token → TokenReader β) :
    (peek >>= f) tokens = f (head tokens.tail) tokens := rfl

@[simp] theorem left_bind (f : Nat → TokenReader β) :
    (left >>= f) tokens = f tokens.length tokens := rfl

@[simp] theorem advance_apply : advance tokens = .ok () tokens.tail := rfl

@[simp] theorem advance_bind (f : Unit → TokenReader β) :
    (advance >>= f) tokens = f () tokens.tail := rfl

@[simp] theorem fault_apply (f : Fault) : (fault f : TokenReader α) tokens = .error f tokens := rfl

@[simp] theorem unexpected_apply (e : Expected) (t : Token) :
    (unexpected e t : TokenReader α) tokens = .error (.invalid (.unexpected e t)) tokens := rfl

@[simp] theorem unsupported_apply (feature : Feature) :
    (unsupported feature : TokenReader α) tokens = .error (.unsupported feature) tokens := rfl

/-- Two readers one after the other succeed if each does, the second on what the first leaves. -/
theorem bind_eq_ok_iff {x : TokenReader α} {f : α → TokenReader β} {b : β} :
    (x >>= f) tokens = .ok b rest ↔ ∃ a mid, x tokens = .ok a mid ∧ f a mid = .ok b rest := by
  change EStateM.bind x f tokens = _ ↔ _
  unfold EStateM.bind
  cases x tokens with
  | ok a mid => simp [and_assoc]
  | error fault mid => simp

theorem bind_of_ok {x : TokenReader α} {f : α → TokenReader β} {a : α} (h : x tokens = .ok a rest) :
    (x >>= f) tokens = f a rest := by
  change EStateM.bind x f tokens = _
  rw [EStateM.bind, h]

theorem bind_of_error {x : TokenReader α} {f : α → TokenReader β} {fault : Fault}
    (h : x tokens = .error fault rest) : (x >>= f) tokens = .error fault rest := by
  change EStateM.bind x f tokens = _
  rw [EStateM.bind, h]

/-- Names of columns with commas between them, read along the list. -/
def columnNamesOf : List Token → EStateM.Result Fault (List Token) (List String)
  | .identifier name :: .comma :: rest =>
    match columnFeature? name .comma with
    | some feature => .error (.unsupported feature) (.comma :: rest)
    | none => match columnNamesOf rest with
      | .ok names rest => .ok (name :: names) rest
      | .error fault rest => .error fault rest
  | .identifier name :: rest =>
    match columnFeature? name (head rest) with
    | some feature => .error (.unsupported feature) rest
    | none => .ok [name] rest
  | .asterisk :: rest => .error (.invalid .mixedAsterisk) (.asterisk :: rest)
  | tokens => .error (.invalid (.unexpected .columnsOrAsterisk (head tokens))) tokens

/-- Every round takes tokens off, so there are as many rounds as needed. -/
theorem columnNames_eq {rounds : Nat} (h : tokens.length ≤ rounds) :
    columnNames rounds tokens = columnNamesOf tokens := by
  induction rounds generalizing tokens with
  | zero =>
    rw [List.eq_nil_of_length_eq_zero (Nat.le_zero.mp h)]
    rfl
  | succ rounds ih =>
    cases tokens with
    | nil => rfl
    | cons t rest =>
      cases t with
      | identifier name =>
        change (match columnFeature? name (head rest) with
          | some feature => unsupported feature
          | none =>
            if head rest = .comma then do
              advance
              return name :: (← columnNames rounds)
            else return [name] : TokenReader (List String)) rest = _
        -- a comma is matched together with the name in front of it
        by_cases hcomma : head rest = .comma
        · obtain ⟨tail, rfl⟩ := exists_cons_of_head_eq (by simp) hcomma
          have htail : tail.length ≤ rounds := by
            simp only [List.length_cons] at h
            omega
          rw [columnNamesOf, head_cons]
          cases columnFeature? name .comma with
          | some feature => rfl
          | none =>
            change EStateM.bind (columnNames rounds) _ tail = _
            unfold EStateM.bind
            rw [ih htail]
            cases columnNamesOf tail <;> rfl
        · rw [columnNamesOf]
          · cases columnFeature? name (head rest) with
            | some feature => rfl
            | none =>
              simp only [if_neg hcomma]
              rfl
          · rintro tail rfl
            exact hcomma rfl
      | _ => rfl

end Xbase.Query.Grammar
