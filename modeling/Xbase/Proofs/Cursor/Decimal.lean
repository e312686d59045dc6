import Xbase.Number.Decimal96
import Xbase.Proofs.Cursor.Step
import Xbase.Proofs.Number.Decimal96
/-!
# Decimal getters

The getters for decimals read a floating-point number and round its decimal half to even. One rounds to the places
that it is given, the other to those that the column declares.
-/
namespace Xbase

open Number (Binary64 Decimal DecimalArithmetic IsMultiple RoundsTo)
open RowSource (schema)

namespace Getter

variable {charset : Charset} {field : Field}

/-- The number of places to which a getter rounds the decimals of a column, if it is one for decimals. -/
def places? (field : Field) : Getter → Option ℕ
  | .decimal => some field.scale
  | .decimalWith places => some places
  | _ => none

private theorem ofNull_of_places? {g : Getter} {places : ℕ} (h : g.places? field = some places) : g.ofNull = none := by
  cases g <;> first | rfl | exact nomatch h

variable [DecimalArithmetic]

theorem read_of_places? {g : Getter} {places : ℕ} (h : g.places? field = some places) (value : Value) :
    g.read charset field value = (Getter.decimalWith places).read charset field value := by
  cases g with
  | decimal =>
    obtain rfl := Option.some.inj h
    rfl
  | decimalWith p =>
    obtain rfl := Option.some.inj h
    rfl
  | _ => exact nomatch h

theorem read_decimalWith {bytes : List UInt8} {x : Binary64}
    (h : field.float .double (charset.decode bytes) = .ok x) (places : ℕ) :
    (Getter.decimalWith places).read charset field (some bytes) =
      (field.decimal x places).map fun d => some (.decimal d) := by
  have hdecimal : interpret.decimalOf charset field bytes places = field.decimal x places := by
    rw [interpret.decimalOf, h]
    rfl
  change Except.bind (interpret.decimalOf charset field bytes places) _ = _
  rw [hdecimal]
  cases field.decimal x places <;> rfl

end Getter

namespace Cursor

section Getters

variable {σ : Type} [RowSource σ] [DecimalArithmetic] {c : Cursor σ} {column : ColumnRef} {f : Field} {g : Getter}
  {places : ℕ}

private theorem get_decimal_eq (h : (schema c.source).resolve column = .ok f) :
    c.get .decimal column = c.get (.decimalWith f.scale) column := by
  have hreading : c.reading .decimal column = c.reading (.decimalWith f.scale) column := by
    simp only [reading, value, h]
    cases c.current with
    | none => rfl
    | some row => cases hvalue : row.get f.name <;> simp only [hvalue] <;> rfl
  unfold get
  rw [hreading]
  rfl

private theorem get_of_value_none (hopen : c.isClosed = false) (hvalue : c.value column = .ok (f, none))
    (g : Getter) : c.get g column = (.ok g.ofNull, { c with wasNull := true }) := by
  rw [get_of_open hopen, reading, hvalue]
  rfl

theorem get_of_places? {bytes : List UInt8} {x : Binary64} (hopen : c.isClosed = false)
    (hvalue : c.value column = .ok (f, some bytes))
    (hx : f.float .double ((schema c.source).charset.decode bytes) = .ok x) (hg : g.places? f = some places) :
    c.get g column =
      match f.decimal x places with
      | .ok d => (.ok (some (.decimal d)), { c with wasNull := false })
      | .error e => (.error e, c) := by
  have hreading : c.reading g column = (f.decimal x places).map fun d => some (.decimal d) := by
    rw [reading, hvalue, ← Getter.read_decimalWith hx]
    exact Getter.read_of_places? hg _
  rw [get_of_open hopen, hreading]
  cases f.decimal x places <;> rfl

/-- A getter that rounds to a number of places finds a number with a decimal in a column. -/
def FindsDecimal (c : Cursor σ) (g : Getter) (column : ColumnRef) (places : ℕ) (d : Decimal) : Prop :=
  ∃ f bytes x, c.isClosed = false ∧ c.value column = .ok (f, some bytes) ∧
    f.float .double ((schema c.source).charset.decode bytes) = .ok x ∧ g.places? f = some places ∧
    DecimalArithmetic.ofBinary? x = some d

theorem FindsDecimal.get_eq {d : Decimal} (h : c.FindsDecimal g column places d) :
    c.get g column =
      (.ok (some (.decimal (DecimalArithmetic.round .nearestEven d places))), { c with wasNull := false }) := by
  obtain ⟨f, bytes, x, hopen, hvalue, hx, hg, hd⟩ := h
  rw [get_of_places? hopen hvalue hx hg, Field.decimal, hd]

theorem FindsDecimal.round_eq {d r : Decimal} (h : c.FindsDecimal g column places d)
    (hr : (c.get g column).1 = .ok (some (.decimal r))) :
    r = DecimalArithmetic.round .nearestEven d places := by
  rw [h.get_eq] at hr
  cases hr
  rfl

/-- The getters for decimals round the decimal of the number in a column to the nearest multiple of a power of ten, a
half to the even one. So a multiple keeps its value, what is rounded stays as it is, and rounding keeps the order, also
of what is read elsewhere. The getter that is not told the number of places takes it from the column. Every number has
a decimal unless it is not finite or beyond the decimals; then it is refused and the cursor stays as it is. A null is
returned as such. -/
theorem get_decimal_rounds (laws : DecimalArithmetic.Lawful) (c : Cursor σ) (column : ColumnRef) :
    (∀ g places d, c.FindsDecimal g column places d → ∃ r : Decimal,
      c.get g column = (.ok (some (.decimal r)), { c with wasNull := false }) ∧
      RoundsTo places d.value r.value ∧ (IsMultiple places d.value → r.value = d.value) ∧
      DecimalArithmetic.round .nearestEven r places = r ∧
      ∀ (c' : Cursor σ) (g' : Getter) (column' : ColumnRef) (d' r' : Decimal),
        c'.FindsDecimal g' column' places d' → (c'.get g' column').1 = .ok (some (.decimal r')) →
        d.value ≤ d'.value → r.value ≤ r'.value) ∧
    (∀ (f : Field) (bytes : List UInt8) (x : Binary64) (g : Getter) (places : ℕ), c.isClosed = false →
      c.value column = .ok (f, some bytes) →
      f.float .double ((schema c.source).charset.decode bytes) = .ok x → g.places? f = some places →
        ((x.isFinite = true ∧ x.absValue < 2 ^ 96) ∧ ∃ d, c.FindsDecimal g column places d) ∨
        ((x.isFinite = false ∨ 2 ^ 96 ≤ x.absValue) ∧
          c.get g column = (.error (.notNumeric f.name f.type (String.ofList x.text)), c))) ∧
    (∀ f : Field, (schema c.source).resolve column = .ok f →
      c.get .decimal column = c.get (.decimalWith f.scale) column) ∧
    ∀ (f : Field) (g : Getter) (places : ℕ), c.isClosed = false → c.value column = .ok (f, none) →
      g.places? f = some places → c.get g column = (.ok none, { c with wasNull := true }) := by
  refine ⟨?_, ?_, fun f => get_decimal_eq, ?_⟩
  · intro g places d hfinds
    have hround := laws.roundsTo_round d places
    refine ⟨_, hfinds.get_eq, hround, hround.eq_of_isMultiple, laws.round_round .nearestEven d places, ?_⟩
    intro c' g' column' d' r' hfinds' hr' hle
    rw [hfinds'.round_eq hr']
    exact hround.mono (laws.roundsTo_round d' places) hle
  · intro f bytes x g places hopen hvalue hx hg
    cases hd : DecimalArithmetic.ofBinary? x with
    | some d =>
      have hrange : ¬ (x.isFinite = false ∨ 2 ^ 96 ≤ x.absValue) := by
        rw [← laws.ofBinary?_eq_none_iff, hd]
        exact nofun
      rw [not_or, Bool.not_eq_false, not_le] at hrange
      exact .inl ⟨hrange, d, f, bytes, x, hopen, hvalue, hx, hg, hd⟩
    | none =>
      refine .inr ⟨(laws.ofBinary?_eq_none_iff x).mp hd, ?_⟩
      rw [get_of_places? hopen hvalue hx hg, Field.decimal, hd]
      rfl
  · intro f g places hopen hvalue hg
    rw [get_of_value_none hopen hvalue, Getter.ofNull_of_places? hg]

end Getters

def priceColumn : Schema := ⟨"t", [⟨"N", .numeric, 8, 1⟩], .page .windows1252⟩

def priceCursor (value : Value) : Cursor MemorySource :=
  { source := .ofRows priceColumn [[value]]
    sql := "SELECT * FROM t"
    condition := none
    boundary := .standard
    phase := .onRow
    current := some (.ofValues priceColumn [value])
    wasNull := false
    closed := false
    owners := [] }

/-- A negative number half way between two decimals of one place is rounded to the even one, below what a greater one
is rounded to, and stays as it is at two places. A number of 31 digits is refused, and a null is returned. -/
theorem get_decimal_rounds_priceCursor :
    let half : Value := some [0x2D, 0x30, 0x2E, 0x32, 0x35]
    let more : Value := some [0x30, 0x2E, 0x30, 0x35]
    let great : Value := some [0x31, 0x65, 0x33, 0x30]
    (priceCursor half).get .decimal (.index 1) = (.ok (some (.decimal ⟨true, 2, 1⟩)), priceCursor half) ∧
      (priceCursor half).get .decimal (.index 1) = (priceCursor half).get (.decimalWith 1) (.index 1) ∧
      Decimal.value ⟨true, 2, 1⟩ ≤ Decimal.value ⟨false, 0, 1⟩ ∧
      (priceCursor more).get .decimal (.index 1) = (.ok (some (.decimal ⟨false, 0, 1⟩)), priceCursor more) ∧
      (priceCursor great).get (.decimalWith 3) (.index 1) =
        (.error (.notNumeric "N" .numeric "1000000000000000000000000000000"), priceCursor great) ∧
      (priceCursor none).get .decimal (.index 1) = (.ok none, { priceCursor none with wasNull := true }) := by
  intro half more great
  have hhalf : (priceCursor half).FindsDecimal .decimal (.index 1) 1 ⟨true, 25, 2⟩ :=
    ⟨⟨"N", .numeric, 8, 1⟩, _, ⟨true, 0x3FD0000000000000⟩, rfl, rfl, by decide +kernel, rfl, by decide +kernel⟩
  have hmore : (priceCursor more).FindsDecimal .decimal (.index 1) 1 ⟨false, 5, 2⟩ :=
    ⟨⟨"N", .numeric, 8, 1⟩, _, ⟨false, 0x3FA999999999999A⟩, rfl, rfl, by decide +kernel, rfl, by decide +kernel⟩
  obtain ⟨hrounds, -, hcolumn, -⟩ := get_decimal_rounds Number.decimal96_lawful (priceCursor half) (.index 1)
  obtain ⟨hroundsMore, -⟩ := get_decimal_rounds Number.decimal96_lawful (priceCursor more) (.index 1)
  obtain ⟨-, hrange, -⟩ := get_decimal_rounds Number.decimal96_lawful (priceCursor great) (.index 1)
  obtain ⟨-, -, -, hnull⟩ := get_decimal_rounds Number.decimal96_lawful (priceCursor none) (.index 1)
  obtain ⟨r, hget, -, -, -, hmono⟩ := hrounds .decimal 1 _ hhalf
  obtain ⟨r', hgetMore, -⟩ := hroundsMore .decimal 1 _ hmore
  have hr : r = ⟨true, 2, 1⟩ := (hhalf.round_eq (congrArg Prod.fst hget)).trans (by decide +kernel)
  have hr' : r' = ⟨false, 0, 1⟩ := (hmore.round_eq (congrArg Prod.fst hgetMore)).trans (by decide +kernel)
  have hle : Decimal.value ⟨true, 25, 2⟩ ≤ Decimal.value ⟨false, 5, 2⟩ := by
    norm_num [Decimal.value, Decimal.signFactor]
  subst hr hr'
  refine ⟨hget, hcolumn ⟨"N", .numeric, 8, 1⟩ rfl,
    hmono _ _ _ _ _ hmore (congrArg Prod.fst hgetMore) hle, hgetMore, ?_,
    hnull ⟨"N", .numeric, 8, 1⟩ .decimal 1 rfl rfl rfl⟩
  obtain ⟨⟨hfinite, hsmall⟩, -⟩ | ⟨-, hget⟩ :=
    hrange ⟨"N", .numeric, 8, 1⟩ _ ⟨false, 0x46293E5939A08CEA⟩ (.decimalWith 3) 3 rfl rfl (by decide +kernel) rfl
  · have hlarge := (Number.decimal96_lawful.ofBinary?_eq_none_iff ⟨false, 0x46293E5939A08CEA⟩).mp (by decide +kernel)
    exact absurd hlarge (not_or.mpr ⟨Bool.not_eq_false _ ▸ hfinite, not_le.mpr hsmall⟩)
  · have htext : String.ofList (Number.Binary.text (f := .double) ⟨false, 0x46293E5939A08CEA⟩) =
        "1000000000000000000000000000000" := by decide +kernel
    rwa [htext] at hget

end Cursor

end Xbase
