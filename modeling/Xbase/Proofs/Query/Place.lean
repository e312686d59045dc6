import Xbase.Proofs.Query.TokenList
import Xbase.Proofs.Query.TokenReader
/-!
# Reading at a place in a list of tokens

Statements are also read by a reader that keeps all tokens and the place where it stands. It looks a token up at its
place, which may fail, and the place never goes beyond the last token. On a list of tokens that ends once it does what
the reader does that keeps the tokens from its place on, and no token is ever looked up beyond the list.
-/
namespace Xbase.Query

open Grammar (columnFeature? isQualified literalOf? followerFeature?)

/-- Why reading at a place ends without a result: for a fault, or for a token looked up where there is none. -/
inductive Stop where
  | fault (fault : Fault)
  | outside
deriving DecidableEq, Repr

structure Place where
  tokens : List Token
  index : Nat

/-- The token at an index, which has to be in the list. -/
def Place.lookUp (p : Place) (i : Nat) : EStateM.Result Stop Place Token :=
  match p.tokens[i]? with
  | some token => .ok token p
  | none => .error .outside p

instance : TokenSource Place Stop where
  current p := p.lookUp p.index
  peek p := p.lookUp (min (p.index + 1) (p.tokens.length - 1))
  advance p := .ok () (if p.index < p.tokens.length - 1 then { p with index := p.index + 1 } else p)
  left p := .ok (p.tokens.length - p.index) p
  fail := .fault

abbrev PlaceReader := EStateM Stop Place

private theorem EndsOnce.succ_lt_length {tokens : List Token} {i : Nat} (hends : EndsOnce tokens)
    (hi : i < tokens.length) (hne : tokens[i] ≠ .eof) : i + 1 < tokens.length := by
  obtain ⟨body, rfl, -⟩ := hends
  have hlast : i ≠ body.length := by
    rintro rfl
    exact hne (by simp)
  rw [List.length_append, List.length_singleton] at hi ⊢
  omega

namespace Place

variable {tokens : List Token} {α β : Type} {i j : Nat} {p q : Place}

private theorem bind_of_ok {x : PlaceReader α} {f : α → PlaceReader β} {a : α} (h : x p = .ok a q) :
    (x >>= f) p = f a q := by
  change EStateM.bind x f p = _
  rw [EStateM.bind, h]

private theorem bind_of_error {x : PlaceReader α} {f : α → PlaceReader β} {stop : Stop} (h : x p = .error stop q) :
    (x >>= f) p = .error stop q := by
  change EStateM.bind x f p = _
  rw [EStateM.bind, h]

private theorem lookUp_eq {t : Token} (h : p.tokens[j]? = some t) : p.lookUp j = .ok t p := by
  rw [lookUp, h]

private theorem advance_eq (hends : EndsOnce tokens) (hi : i < tokens.length) (hne : tokens[i] ≠ .eof) :
    (Grammar.advance : PlaceReader Unit) ⟨tokens, i⟩ = .ok () ⟨tokens, i + 1⟩ := by
  have hnext : i + 1 < tokens.length := hends.succ_lt_length hi hne
  change EStateM.Result.ok () (if i < tokens.length - 1 then (⟨tokens, i + 1⟩ : Place) else ⟨tokens, i⟩) = _
  rw [if_pos (by omega)]

private theorem head_drop (hi : i < tokens.length) : Grammar.head (tokens.drop i) = tokens[i] := by
  rw [List.drop_eq_getElem_cons hi, Grammar.head_cons]

/-- A reader at a place and one of the tokens from there on end alike, at a place in the list that is no earlier. -/
def Agrees (tokens : List Token) (x : PlaceReader α) (y : TokenReader α) (i : Nat) : Prop :=
  ∃ j, i ≤ j ∧ j < tokens.length ∧
    ((∃ a, x ⟨tokens, i⟩ = .ok a ⟨tokens, j⟩ ∧ y (tokens.drop i) = .ok a (tokens.drop j)) ∨
      ∃ fault, x ⟨tokens, i⟩ = .error (.fault fault) ⟨tokens, j⟩ ∧ y (tokens.drop i) = .error fault (tokens.drop j))

namespace Agrees

theorem pure (hi : i < tokens.length) (a : α) : Agrees tokens (pure a) (pure a) i :=
  ⟨i, Nat.le_refl _, hi, .inl ⟨a, rfl, rfl⟩⟩

theorem fault (hi : i < tokens.length) (fault : Fault) :
    Agrees tokens (Grammar.fault fault : PlaceReader α) (Grammar.fault fault) i :=
  ⟨i, Nat.le_refl _, hi, .inr ⟨fault, rfl, rfl⟩⟩

theorem bind {x : PlaceReader α} {y : TokenReader α} {f : α → PlaceReader β} {g : α → TokenReader β}
    (h : Agrees tokens x y i) (hnext : ∀ a, ∀ j < tokens.length, Agrees tokens (f a) (g a) j) :
    Agrees tokens (x >>= f) (y >>= g) i := by
  obtain ⟨j, hij, hj, ⟨a, hx, hy⟩ | ⟨fault, hx, hy⟩⟩ := h
  · obtain ⟨k, hjk, hk, hends⟩ := hnext a j hj
    refine ⟨k, Nat.le_trans hij hjk, hk, ?_⟩
    rwa [bind_of_ok hx, Grammar.bind_of_ok hy]
  · exact ⟨j, hij, hj, .inr ⟨fault, bind_of_error hx, Grammar.bind_of_error hy⟩⟩

theorem current_bind {f : Token → PlaceReader β} {g : Token → TokenReader β} (hi : i < tokens.length)
    (h : Agrees tokens (f tokens[i]) (g tokens[i]) i) :
    Agrees tokens (Grammar.current >>= f) (Grammar.current >>= g) i := by
  have hcurrent : (Grammar.current : PlaceReader Token) ⟨tokens, i⟩ = .ok tokens[i] ⟨tokens, i⟩ :=
    lookUp_eq (List.getElem?_eq_getElem hi)
  unfold Agrees
  rwa [bind_of_ok hcurrent, Grammar.current_bind, head_drop hi]

theorem left_bind {f : Nat → PlaceReader β} {g : Nat → TokenReader β}
    (h : Agrees tokens (f (tokens.length - i)) (g (tokens.length - i)) i) :
    Agrees tokens (Grammar.left >>= f) (Grammar.left >>= g) i := by
  unfold Agrees
  rwa [Grammar.left_bind, List.length_drop]

theorem ite {c : Prop} [Decidable c] {x x' : PlaceReader α} {y y' : TokenReader α}
    (hpos : c → Agrees tokens x y i) (hneg : ¬ c → Agrees tokens x' y' i) :
    Agrees tokens (if c then x else x') (if c then y else y') i := by
  by_cases h : c
  · rw [if_pos h, if_pos h]
    exact hpos h
  · rw [if_neg h, if_neg h]
    exact hneg h

theorem peek (hends : EndsOnce tokens) (hi : i < tokens.length) :
    Agrees tokens Grammar.peek Grammar.peek i := by
  have hsame : tokens[min (i + 1) (tokens.length - 1)]? = some (Grammar.head (tokens.drop i).tail) := by
    rw [List.tail_drop]
    by_cases hlast : i + 1 < tokens.length
    · rw [Nat.min_eq_left (by omega), List.getElem?_eq_getElem hlast, head_drop hlast]
    · obtain ⟨body, rfl, -⟩ := hends
      rw [List.drop_eq_nil_of_le (Nat.not_lt.mp hlast), Nat.min_eq_right (by omega)]
      simp
  exact ⟨i, Nat.le_refl _, hi, .inl ⟨_, lookUp_eq hsame, rfl⟩⟩

theorem advance (hends : EndsOnce tokens) (hi : i < tokens.length) (hne : tokens[i] ≠ .eof) :
    Agrees tokens Grammar.advance Grammar.advance i := by
  refine ⟨i + 1, Nat.le_succ i, hends.succ_lt_length hi hne, .inl ⟨(), advance_eq hends hi hne, ?_⟩⟩
  rw [Grammar.advance_apply, List.tail_drop]

theorem advance_bind {f : Unit → PlaceReader β} {g : Unit → TokenReader β} (hends : EndsOnce tokens)
    (hi : i < tokens.length) (hne : tokens[i] ≠ .eof)
    (h : i + 1 < tokens.length → Agrees tokens (f ()) (g ()) (i + 1)) :
    Agrees tokens (Grammar.advance >>= f) (Grammar.advance >>= g) i := by
  obtain ⟨j, hij, hj, hends'⟩ := h (hends.succ_lt_length hi hne)
  refine ⟨j, Nat.le_of_succ_le hij, hj, ?_⟩
  rwa [bind_of_ok (advance_eq hends hi hne), Grammar.advance_bind, List.tail_drop]

end Agrees

section Readers

variable (hends : EndsOnce tokens) (hi : i < tokens.length)
include hi

private theorem agrees_rejectOtherStatement :
    Agrees tokens Grammar.rejectOtherStatement Grammar.rejectOtherStatement i := by
  refine .current_bind hi ?_
  cases tokens[i] with
  | keyword k => exact .ite (fun _ => .fault hi _) fun _ => .pure hi _
  | _ => exact .pure hi _

include hends

private theorem agrees_expectKeyword (k : Keyword) :
    Agrees tokens (Grammar.expectKeyword k) (Grammar.expectKeyword k) i :=
  .current_bind hi (.ite (fun h => .advance hends hi (by simp [h])) fun _ => .fault hi _)

private theorem agrees_columnNames (rounds : Nat) :
    Agrees tokens (Grammar.columnNames rounds) (Grammar.columnNames rounds) i := by
  induction rounds generalizing i with
  | zero => exact .current_bind hi (.fault hi _)
  | succ rounds ih =>
    refine .current_bind hi ?_
    cases ht : tokens[i] with
    | identifier name =>
      refine .advance_bind hends hi (by simp [ht]) fun hj => .current_bind hj ?_
      cases columnFeature? name tokens[i + 1] with
      | some feature => exact .fault hj _
      | none =>
        refine .ite (fun h => .advance_bind hends hj (by simp [h]) fun hk => ?_) fun _ => .pure hj _
        exact .bind (ih hk) fun _ l hl => .pure hl _
    | _ => exact .fault hi _

private theorem agrees_selectList : Agrees tokens Grammar.selectList Grammar.selectList i := by
  have hnames : Agrees tokens (do return SelectList.columns (← Grammar.columnNames (← Grammar.left)))
      (do return SelectList.columns (← Grammar.columnNames (← Grammar.left))) i :=
    .left_bind (.bind (agrees_columnNames hends hi _) fun _ _ hj => .pure hj _)
  refine .current_bind hi ?_
  cases ht : tokens[i] with
  | asterisk => exact .advance_bind hends hi (by simp [ht]) fun hj => .pure hj _
  | keyword k => cases k <;> first | exact .fault hi _ | exact hnames
  | _ => exact hnames

private theorem agrees_table : Agrees tokens Grammar.table Grammar.table i := by
  refine .current_bind hi ?_
  cases ht : tokens[i] with
  | identifier name =>
    refine .advance_bind hends hi (by simp [ht]) fun hj => .current_bind hj ?_
    exact .ite (fun _ => .fault hj _) fun _ => .pure hj _
  | _ => exact .fault hi _

private theorem agrees_comparisonColumn : Agrees tokens Grammar.comparisonColumn Grammar.comparisonColumn i := by
  refine .current_bind hi ?_
  cases ht : tokens[i] with
  | identifier name =>
    refine .advance_bind hends hi (by simp [ht]) fun hj => .current_bind hj (.ite (fun _ => ?_) fun _ => ?_)
    · exact .bind (.peek hends hj) fun _ k hk => .ite (fun _ => .fault hk _) fun _ => .fault hk _
    · exact .ite (fun _ => .fault hj _) fun _ => .pure hj _
  | leftParen =>
    exact .bind (.peek hends hi) fun _ k hk => .ite (fun _ => .fault hk _) fun _ => .fault hk _
  | keyword k => cases k <;> exact .fault hi _
  | _ => exact .fault hi _

private theorem agrees_comparisonOperator : Agrees tokens Grammar.comparisonOperator Grammar.comparisonOperator i := by
  refine .current_bind hi ?_
  cases ht : tokens[i] with
  | operator op => exact .advance_bind hends hi (by simp [ht]) fun hj => .pure hj _
  | keyword k => exact .ite (fun _ => .fault hi _) fun _ => .fault hi _
  | _ => exact .fault hi _

private theorem agrees_literal : Agrees tokens Grammar.literal Grammar.literal i := by
  refine .current_bind hi ?_
  cases ht : tokens[i] with
  | integer | float | string | boolean | null =>
    exact .advance_bind hends hi (by simp [ht]) fun hj => .pure hj _
  | leftParen =>
    exact .bind (.peek hends hi) fun _ k hk => .ite (fun _ => .fault hk _) fun _ => .fault hk _
  | _ => exact .fault hi _

private theorem agrees_comparison : Agrees tokens Grammar.comparison Grammar.comparison i :=
  .bind (agrees_comparisonColumn hends hi) fun _ _ hj =>
    .bind (agrees_comparisonOperator hends hj) fun _ _ hk =>
      .bind (agrees_literal hends hk) fun _ _ hl => .pure hl _

private theorem agrees_condition : Agrees tokens Grammar.condition Grammar.condition i := by
  refine .current_bind hi (.ite (fun h => ?_) fun _ => .pure hi _)
  refine .advance_bind hends hi (by simp [h]) fun hj => .bind (agrees_comparison hends hj) fun _ k hk => ?_
  refine .current_bind hk ?_
  cases tokens[k] with
  | keyword w => cases w <;> first | exact .fault hk _ | exact .pure hk _
  | _ => exact .pure hk _

private theorem agrees_statementEnd : Agrees tokens Grammar.statementEnd Grammar.statementEnd i := by
  refine .current_bind hi (.ite (fun h => ?_) fun _ => ?_)
  · refine .advance_bind hends hi (by simp [h]) fun hj => .current_bind hj (.ite (fun _ => .pure hj _) fun _ => ?_)
    cases followerFeature? tokens[i + 1] <;> exact .fault hj _
  · refine .current_bind hi (.ite (fun _ => .pure hi _) fun _ => ?_)
    cases followerFeature? tokens[i] <;> exact .fault hi _

/-- A statement is read alike everywhere in a list of tokens that ends once. -/
theorem agrees_statement : Agrees tokens Grammar.statement Grammar.statement i :=
  .bind (agrees_rejectOtherStatement hi) fun _ _ hj =>
    .bind (agrees_expectKeyword hends hj _) fun _ _ hk =>
      .bind (agrees_selectList hends hk) fun _ _ hl =>
        .bind (agrees_expectKeyword hends hl _) fun _ _ hm =>
          .bind (agrees_table hends hm) fun _ _ hn =>
            .bind (agrees_condition hends hn) fun _ _ ho =>
              .bind (agrees_statementEnd hends ho) fun _ _ hp => .pure hp _

end Readers

end Place

end Xbase.Query
