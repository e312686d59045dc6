import Xbase.Proofs.Query.Place
import Xbase.Proofs.Query.Sentence
/-!
# Reading again from the same tokens

A list of tokens can be read from as often as wanted, each time from the place where the time before ended. Whatever
fails on the way, the place stays in the list and never goes back. A statement is read at most once, and what is left
after it is the end.
-/
namespace Xbase.Query

variable {tokens : List Token} {i n m : Nat} {s : Statement}

private theorem EndsOnce.drop (hends : EndsOnce tokens) (hi : i < tokens.length) : EndsOnce (tokens.drop i) := by
  obtain ⟨body, rfl, hbody⟩ := hends
  rw [List.length_append, List.length_singleton, Nat.lt_succ_iff] at hi
  exact ⟨body.drop i, List.drop_append_of_le_length hi, fun hmem => hbody (List.mem_of_mem_drop hmem)⟩

/-- Reads one statement from a place on: the statement or why there is none, and the place that is reached. -/
def Place.readStatement (tokens : List Token) (i : Nat) : Except Stop Statement × Nat :=
  match Grammar.statement (⟨tokens, i⟩ : Place) with
  | .ok s p => (.ok s, p.index)
  | .error stop p => (.error stop, p.index)

def placeAfter (tokens : List Token) : Nat → Nat
  | 0 => 0
  | n + 1 => (Place.readStatement tokens (placeAfter tokens n)).2

def tokensAfter (tokens : List Token) : Nat → List Token
  | 0 => tokens
  | n + 1 => (readStatement (tokensAfter tokens n)).2

/-- What a call returns if a number of calls came before it. -/
def answer (tokens : List Token) (n : Nat) : Except Fault Statement := (readStatement (tokensAfter tokens n)).1

private theorem Place.readStatement_eq (hends : EndsOnce tokens) (hi : i < tokens.length) :
    ∃ j, i ≤ j ∧ j < tokens.length ∧
      Place.readStatement tokens i = ((Query.readStatement (tokens.drop i)).1.mapError .fault, j) ∧
      (Query.readStatement (tokens.drop i)).2 = tokens.drop j := by
  obtain ⟨j, hij, hj, ⟨s, hplace, htokens⟩ | ⟨fault, hplace, htokens⟩⟩ := Place.agrees_statement hends hi
  · refine ⟨j, hij, hj, ?_⟩
    rw [Place.readStatement, Query.readStatement, hplace, htokens]
    exact ⟨rfl, rfl⟩
  · refine ⟨j, hij, hj, ?_⟩
    rw [Place.readStatement, Query.readStatement, hplace, htokens]
    exact ⟨rfl, rfl⟩

private theorem tokensAfter_eq (hends : EndsOnce tokens) (n : Nat) :
    placeAfter tokens n < tokens.length ∧ tokensAfter tokens n = tokens.drop (placeAfter tokens n) := by
  induction n with
  | zero =>
    obtain ⟨body, rfl, -⟩ := hends
    exact ⟨by simp [placeAfter], rfl⟩
  | succ n ih =>
    obtain ⟨hplace, hrest⟩ := ih
    obtain ⟨j, -, hj, hread, hleft⟩ := Place.readStatement_eq hends hplace
    rw [placeAfter, tokensAfter, hread, hrest]
    exact ⟨hj, hleft⟩

private theorem readStatement_placeAfter (hends : EndsOnce tokens) (n : Nat) :
    placeAfter tokens n ≤ placeAfter tokens (n + 1) ∧
      Place.readStatement tokens (placeAfter tokens n) =
        ((answer tokens n).mapError .fault, placeAfter tokens (n + 1)) := by
  obtain ⟨hplace, hrest⟩ := tokensAfter_eq hends n
  obtain ⟨j, hij, -, hread, -⟩ := Place.readStatement_eq hends hplace
  rw [placeAfter, answer, hrest, hread]
  exact ⟨hij, rfl⟩

private theorem tokensAfter_of_answer (hends : EndsOnce tokens) (h : answer tokens n = .ok s) :
    IsSentence s (tokensAfter tokens n) ∧ tokensAfter tokens (n + 1) = [.eof] := by
  obtain ⟨hplace, hrest⟩ := tokensAfter_eq hends n
  obtain ⟨hplace', hrest'⟩ := tokensAfter_eq hends (n + 1)
  refine ⟨?_, ?_⟩
  · rw [← readStatement_eq_ok_iff (hrest ▸ hends.drop hplace)]
    exact h
  · have hhead : Grammar.head (tokensAfter tokens (n + 1)) = .eof := by
      rw [answer, readStatement] at h
      rw [tokensAfter, readStatement]
      cases hread : Grammar.statement (tokensAfter tokens n) with
      | error fault rest => rw [hread] at h; cases h
      | ok s rest => exact (Grammar.statement_eq_ok_iff.mp hread).2.1
    have hends' : EndsOnce ([] ++ tokensAfter tokens (n + 1)) := hrest' ▸ hends.drop hplace'
    exact hends'.eq_eof List.not_mem_nil hhead

private theorem tokensAfter_of_eof (h : tokensAfter tokens n = [.eof]) (hnm : n ≤ m) :
    tokensAfter tokens m = [.eof] := by
  induction hnm with
  | refl => exact h
  | step _ ih => rw [tokensAfter, ih]; rfl

private theorem answer_after (hends : EndsOnce tokens) (h : answer tokens n = .ok s) (hnm : n < m) :
    answer tokens m = .error (.invalid (.unexpected (.keyword .select) .eof)) := by
  rw [answer, tokensAfter_of_eof (tokensAfter_of_answer hends h).2 hnm]
  rfl

/-- Statements are read again and again from the tokens of a text, each time from the place where the time before
ended. The place never goes back and stays in the list, and no token is looked up outside of it. At most one call
returns a statement. It takes what is left up to the end, which is a sentence for that statement, and every later call
finds the end where a query has to begin. -/
theorem answer_of_tokenize {sql : List Char} (h : tokenize sql = .ok tokens) :
    (∀ n, placeAfter tokens n ≤ placeAfter tokens (n + 1) ∧ placeAfter tokens n < tokens.length ∧
      tokensAfter tokens n = tokens.drop (placeAfter tokens n) ∧
      Place.readStatement tokens (placeAfter tokens n) =
        ((answer tokens n).mapError .fault, placeAfter tokens (n + 1))) ∧
      (∀ n m s t, answer tokens n = .ok s → answer tokens m = .ok t → n = m) ∧
      ∀ n s, answer tokens n = .ok s →
        IsSentence s (tokens.drop (placeAfter tokens n)) ∧ placeAfter tokens (n + 1) + 1 = tokens.length ∧
          ∀ m, n < m → answer tokens m = .error (.invalid (.unexpected (.keyword .select) .eof)) := by
  have hends := endsOnce_of_tokenize h
  refine ⟨fun n => ?_, fun n m s t hn hm => ?_, fun n s hn => ?_⟩
  · obtain ⟨hplace, hrest⟩ := tokensAfter_eq hends n
    obtain ⟨hle, hread⟩ := readStatement_placeAfter hends n
    exact ⟨hle, hplace, hrest, hread⟩
  · obtain hlt | heq | hgt := Nat.lt_trichotomy n m
    · rw [answer_after hends hn hlt] at hm
      cases hm
    · exact heq
    · rw [answer_after hends hm hgt] at hn
      cases hn
  · obtain ⟨hplace, hrest⟩ := tokensAfter_eq hends n
    obtain ⟨hplace', hrest'⟩ := tokensAfter_eq hends (n + 1)
    obtain ⟨hsentence, heof⟩ := tokensAfter_of_answer hends hn
    refine ⟨hrest ▸ hsentence, ?_, fun m hnm => answer_after hends hn hnm⟩
    have hlength := congrArg List.length (hrest'.symm.trans heof)
    rw [List.length_drop, List.length_singleton] at hlength
    omega

/-- The first call fails behind its keyword, the second reads the query that stands there. -/
theorem answer_of_tokenize_twice :
    ∃ tokens, tokenize "SELECT SELECT * FROM t".toList = .ok tokens ∧
      answer tokens 0 = .error (.invalid (.unexpected .columnsOrAsterisk (.keyword .select))) ∧
      answer tokens 1 = .ok ⟨.all, "t", none⟩ ∧ placeAfter tokens 2 + 1 = tokens.length ∧
      ∀ m, 1 < m → answer tokens m = .error (.invalid (.unexpected (.keyword .select) .eof)) := by
  have h : tokenize "SELECT SELECT * FROM t".toList =
      .ok [.keyword .select, .keyword .select, .asterisk, .keyword .fromWord, .identifier "t", .eof] := by
    decide +kernel
  obtain ⟨-, -, hok⟩ := answer_of_tokenize h
  obtain ⟨-, hplace, hlater⟩ := hok 1 ⟨.all, "t", none⟩ rfl
  exact ⟨_, h, rfl, rfl, hplace, hlater⟩

end Xbase.Query
