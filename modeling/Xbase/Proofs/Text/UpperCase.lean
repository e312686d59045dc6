import Xbase.Text.UpperCase
/-!
# Texts in capitals of ASCII

Besides the letters of ASCII, ten characters have an upper case of ASCII letters alone: a dotless i, a long s, and
eight ligatures that come apart. So the texts with a given upper case of ASCII can be told without the tables.
-/
namespace Xbase.Text

/-- The characters beyond ASCII whose upper case is ASCII, with that upper case. -/
def asciiCapitals : List (Char × List Char) :=
  [('\u0131', ['I']), ('\u017F', ['S']), ('\u00DF', ['S', 'S']), ('\uFB00', ['F', 'F']), ('\uFB01', ['F', 'I']),
   ('\uFB02', ['F', 'L']), ('\uFB03', ['F', 'F', 'I']), ('\uFB04', ['F', 'F', 'L']), ('\uFB05', ['S', 'T']),
   ('\uFB06', ['S', 'T'])]

/-- Whether a text is a way to write given capitals: letters of ASCII in either case, and characters beyond that
stand for one or more capitals. -/
inductive CaseVariant : List Char → List Char → Prop where
  | nil : CaseVariant [] []
  | ascii {c : Char} {w s : List Char} (hc : c.toNat < 0x80) (h : CaseVariant w s) :
    CaseVariant (c :: w) (c.toUpper :: s)
  | beyond {c : Char} {capitals w s : List Char} (hc : (c, capitals) ∈ asciiCapitals) (h : CaseVariant w s) :
    CaseVariant (c :: w) (capitals ++ s)

variable {c : Char} {w s : List Char}

private theorem caseRuns_beyond : ∀ run ∈ caseRuns,
    (run.first = 0x131 ∧ run.last = 0x131 ∧ run.shift = -232) ∨
      (run.first = 0x17F ∧ run.last = 0x17F ∧ run.shift = -300) ∨
      (0x80 ≤ run.first + run.shift ∧
        (run.last + run.shift < 0xD800 ∨ (0xDFFF < run.first + run.shift ∧ run.last + run.shift < 0x110000))) := by
  decide +kernel

private theorem caseExpansions_beyond : ∀ p ∈ caseExpansions, (∀ m ∈ p.2, (Char.ofNat m).toNat < 0x80) →
    (Char.ofNat p.1, p.2.map Char.ofNat) ∈ asciiCapitals := by
  decide +kernel

theorem toNat_of_toUpper (h : c.toUpper.toNat < 0x80) : c.toNat < 0x80 := by
  unfold Char.toUpper at h
  split at h
  · rename_i hlower
    have hle : c.toNat ≤ 122 := UInt32.le_iff_toNat_le.mp hlower.2
    omega
  · exact h

private theorem mem_asciiCapitals_of_run {run : CaseRun} (hrun : caseRuns.find? (·.has c.toNat) = some run)
    (h : (Char.ofNat (c.toNat + run.shift).toNat).toNat < 0x80) :
    (c, [Char.ofNat (c.toNat + run.shift).toNat]) ∈ asciiCapitals := by
  have heq {n : Nat} (hn : c.toNat = n) : c = Char.ofNat n := by rw [← hn, Char.ofNat_toNat]
  have hhas := List.find?_some hrun
  simp only [CaseRun.has, Bool.and_eq_true, decide_eq_true_eq] at hhas
  obtain ⟨⟨hfirst, hlast⟩, -⟩ := hhas
  rcases caseRuns_beyond run (List.mem_of_find?_eq_some hrun) with ⟨h₁, h₂, hshift⟩ | ⟨h₁, h₂, hshift⟩ | hbeyond
  · have hnat : c.toNat = 0x131 := by omega
    simp only [hshift, heq hnat]
    decide
  · have hnat : c.toNat = 0x17F := by omega
    simp only [hshift, heq hnat]
    decide
  · -- The shifted number is no surrogate, so it is that of the upper case, and it is beyond ASCII.
    have hvalid : (c.toNat + run.shift).toNat.isValidChar := by
      unfold Nat.isValidChar
      omega
    have hnat : (Char.ofNat (c.toNat + run.shift).toNat).toNat = (c.toNat + run.shift).toNat := by
      rw [Char.ofNat, dif_pos hvalid]
      rfl
    omega

private theorem mem_asciiCapitals_of_expansion {expansion : List Nat}
    (hexpansion : caseExpansions.lookup c.toNat = some expansion)
    (h : ∀ m ∈ expansion, (Char.ofNat m).toNat < 0x80) : (c, expansion.map Char.ofNat) ∈ asciiCapitals := by
  obtain ⟨front, back, hsplit, -⟩ := List.lookup_eq_some_iff.mp hexpansion
  have hlisted : (c.toNat, expansion) ∈ caseExpansions := by
    rw [hsplit]
    exact List.mem_append_right front (.head back)
  have hmem := caseExpansions_beyond _ hlisted h
  rwa [Char.ofNat_toNat] at hmem

private theorem mem_asciiCapitals (hc : 0x80 ≤ c.toNat) (h : ∀ d ∈ upperChar c, d.toNat < 0x80) :
    (c, upperChar c) ∈ asciiCapitals := by
  unfold upperChar at h ⊢
  rw [if_neg (Nat.not_lt.mpr hc)] at h ⊢
  cases hrun : caseRuns.find? (·.has c.toNat) with
  | some run =>
    rw [hrun] at h
    exact mem_asciiCapitals_of_run hrun (h _ (.head []))
  | none =>
    rw [hrun] at h
    cases hexpansion : caseExpansions.lookup c.toNat with
    | some expansion =>
      rw [hexpansion] at h
      exact mem_asciiCapitals_of_expansion hexpansion fun m hm => h _ (List.mem_map_of_mem hm)
    | none =>
      rw [hexpansion] at h
      exact absurd (h c (.head [])) (Nat.not_lt.mpr hc)

private theorem upperChar_of_mem {capitals : List Char} (h : (c, capitals) ∈ asciiCapitals) :
    upperChar c = capitals := by
  have hall : ∀ p ∈ asciiCapitals, upperChar p.1 = p.2 := by decide +kernel
  exact hall _ h

theorem ascii_of_all (h : s.all (·.toNat < 0x80) = true) : ∀ c ∈ s, c.toNat < 0x80 :=
  fun c hc => of_decide_eq_true (List.all_eq_true.mp h c hc)

/-- The upper case of a text is a text of ASCII exactly if it is a way to write that. -/
theorem upper_eq_iff (hs : ∀ c ∈ s, c.toNat < 0x80) : upper w = s ↔ CaseVariant w s := by
  constructor
  · intro h
    induction w generalizing s with
    | nil =>
      obtain rfl : [] = s := h
      exact .nil
    | cons c w ih =>
      have hcons : upperChar c ++ upper w = s := h
      have hrest : CaseVariant w (upper w) :=
        ih (fun d hd => hs d (hcons ▸ List.mem_append_right _ hd)) rfl
      by_cases hc : c.toNat < 0x80
      · have hchar : upperChar c = [c.toUpper] := if_pos hc
        rw [← hcons, hchar]
        exact .ascii hc hrest
      · rw [← hcons]
        refine .beyond (mem_asciiCapitals (Nat.not_lt.mp hc) fun d hd => ?_) hrest
        exact hs d (hcons ▸ List.mem_append_left _ hd)
  · intro h
    induction h with
    | nil => rfl
    | @ascii c w s hc h ih =>
      have hchar : upperChar c = [c.toUpper] := if_pos hc
      change upperChar c ++ upper w = _
      rw [hchar, ih fun d hd => hs d (.tail _ hd)]
      rfl
    | @beyond c capitals w s hc h ih =>
      change upperChar c ++ upper w = _
      rw [upperChar_of_mem hc, ih fun d hd => hs d (List.mem_append_right _ hd)]

theorem caseVariant_of_map_toUpper (hs : ∀ c ∈ s, c.toNat < 0x80) (h : w.map Char.toUpper = s) :
    CaseVariant w s := by
  subst h
  induction w with
  | nil => exact .nil
  | cons c w ih =>
    have hc : c.toNat < 0x80 := toNat_of_toUpper (hs c.toUpper (.head _))
    exact .ascii hc (ih fun d hd => hs d (.tail _ hd))

/-- Without the listed characters, the way to write capitals is the letter case of ASCII. -/
theorem caseVariant_iff_map_toUpper (hs : ∀ c ∈ s, c.toNat < 0x80)
    (hw : ∀ c ∈ w, ∀ p ∈ asciiCapitals, p.1 ≠ c) : CaseVariant w s ↔ w.map Char.toUpper = s := by
  constructor
  · intro h
    induction h with
    | nil => rfl
    | ascii hc h ih =>
      rw [List.map_cons, ih (fun d hd => hs d (.tail _ hd)) fun d hd => hw d (.tail _ hd)]
    | @beyond c capitals w s hc h ih => exact absurd rfl (hw c (.head w) _ hc)
  · exact caseVariant_of_map_toUpper hs

theorem CaseVariant.map_toUpper (h : CaseVariant w s) (hs : ∀ p ∈ asciiCapitals, ¬ p.2 ⊆ s) :
    w.map Char.toUpper = s := by
  induction h with
  | nil => rfl
  | ascii hc h ih =>
    rw [List.map_cons, ih fun p hp hsubset => hs p hp fun d hd => .tail _ (hsubset hd)]
  | @beyond c capitals w s hc h ih => exact absurd (List.subset_append_left capitals s) (hs _ hc)

theorem upper_eq_iff_map_toUpper (hs : ∀ c ∈ s, c.toNat < 0x80) (h : ∀ p ∈ asciiCapitals, ¬ p.2 ⊆ s) :
    upper w = s ↔ w.map Char.toUpper = s := by
  rw [upper_eq_iff hs]
  exact ⟨fun hvariant => hvariant.map_toUpper h, caseVariant_of_map_toUpper hs⟩

end Xbase.Text
