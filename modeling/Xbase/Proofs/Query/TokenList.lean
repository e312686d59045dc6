import Xbase.Query.Lexer
/-!
# Lists of tokens

The tokens of a text end with the end of the query, which stands nowhere else.
-/
namespace Xbase.Query

/-- The end of the query is the last token and no other. -/
def EndsOnce (tokens : List Token) : Prop := ∃ body, tokens = body ++ [.eof] ∧ .eof ∉ body

private theorem endsOnce_eof : EndsOnce [.eof] := ⟨[], rfl, List.not_mem_nil⟩

private theorem EndsOnce.cons {t : Token} {tokens : List Token} (ht : t ≠ .eof) (h : EndsOnce tokens) :
    EndsOnce (t :: tokens) := by
  obtain ⟨body, rfl, hbody⟩ := h
  exact ⟨t :: body, rfl, by simp [hbody, Ne.symm ht]⟩

theorem EndsOnce.eq_eof {front rest : List Token} (h : EndsOnce (front ++ rest))
    (hfront : .eof ∉ front) (hrest : rest.headD .eof = .eof) : rest = [.eof] := by
  induction front with
  | nil =>
    obtain ⟨body, hbody, hmem⟩ := h
    cases body with
    | nil => exact hbody
    | cons t body =>
      have ht : rest.headD .eof = t := by rw [← List.nil_append rest, hbody]; rfl
      exact absurd (List.mem_cons.mpr (.inl (hrest.symm.trans ht))) hmem
  | cons t front ih =>
    obtain ⟨body, hbody, hmem⟩ := h
    cases body with
    | nil =>
      have ht : t = .eof := (List.cons.inj hbody).1
      exact absurd (List.mem_cons.mpr (.inl ht.symm)) hfront
    | cons s body =>
      exact ih ⟨body, (List.cons.inj hbody).2, fun h => hmem (List.mem_cons_of_mem s h)⟩
        (fun h => hfront (List.mem_cons_of_mem t h))

theorem tokenize_eq (s : List Char) :
    tokenize s =
      match Lexer.next s with
      | (.error fault, _) => .error fault
      | (.ok t, rest) => if t = .eof then .ok [t] else (tokenize rest).map (t :: ·) := by
  rw [tokenize]
  split
  · rename_i h
    simp only [h]
  · rename_i h
    simp only [h]
    rfl

theorem endsOnce_of_tokenize {s : List Char} {tokens : List Token} (h : tokenize s = .ok tokens) :
    EndsOnce tokens := by
  induction s using tokenize.induct generalizing tokens with
  | case1 s fault rest hnext =>
    rw [tokenize_eq, hnext] at h
    cases h
  | case2 s rest hnext =>
    rw [tokenize_eq, hnext] at h
    cases h
    exact endsOnce_eof
  | case3 s t rest hnext ht ih =>
    rw [tokenize_eq, hnext] at h
    simp only [ht, if_false] at h
    cases hrest : tokenize rest with
    | error fault =>
      rw [hrest] at h
      cases h
    | ok tail =>
      rw [hrest] at h
      cases h
      exact (ih hrest).cons ht

end Xbase.Query
