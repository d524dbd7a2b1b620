import CalcSpeech.Proofs.Decimal

/-!
# Arithmetic expressions

A text is an arithmetic expression when it is put together from numerals, the four signs and
parentheses, and then it stands for a number (`Denotes`). Two operands never stand in an expression
with nothing but a gap between them (`Denotes.nowhere_neighbours`).
-/

namespace CalcSpeech.Expression

/-- How tightly the parts of an expression hold together. -/
inductive Level where
  | sum
  | product
  | factor

/-- The expressions of each level and the numbers that they stand for. -/
inductive Denotes : Level → List Char → ℚ → Prop
  | numeral {n x} : HasValue n x → Denotes .factor n x
  | enclosed {e x} : Denotes .sum e x → Denotes .factor ('(' :: (e ++ [')'])) x
  | factor {e x} : Denotes .factor e x → Denotes .product e x
  | times {e f x y} : Denotes .product e x → Denotes .factor f y →
      Denotes .product (e ++ '*' :: f) (x * y)
  | divided {e f x y} : Denotes .product e x → Denotes .factor f y → y ≠ 0 →
      Denotes .product (e ++ '/' :: f) (x / y)
  | product {e x} : Denotes .product e x → Denotes .sum e x
  | negative {e x} : Denotes .product e x → Denotes .sum ('-' :: e) (-x)
  | plus {e f x y} : Denotes .sum e x → Denotes .product f y → Denotes .sum (e ++ '+' :: f) (x + y)
  | minus {e f x y} : Denotes .sum e x → Denotes .product f y → Denotes .sum (e ++ '-' :: f) (x - y)
  | spaceBefore {l e x} : Denotes l e x → Denotes l (' ' :: e) x
  | spaceBehind {l e x} : Denotes l e x → Denotes l (e ++ [' ']) x

/-- Whether an operand may end with this character. -/
def endsOperand (c : Char) : Bool := c.isDigit || c == ')'

/-- Whether an operand may begin with this character. -/
def beginsOperand (c : Char) : Bool := c.isDigit || c == '.' || c == '('

/-- An operand ends here, and behind a gap another one begins. -/
def NeighboursAt (before : Option Char) (rest : List Char) : Prop :=
  before.any endsOperand = true ∧
    ∃ r, rest = ' ' :: r ∧ (r.dropWhile (· == ' ')).head?.any beginsOperand = true

theorem NeighboursAt.head {b : Option Char} {rest : List Char} (h : NeighboursAt b rest) :
    rest.head? = some ' ' := by
  obtain ⟨-, r, rfl, -⟩ := h
  rfl

/-- In an expression that stands where an operand can, no two operands are neighbours. -/
theorem Denotes.nowhere_neighbours {l : Level} {e : List Char} {x : ℚ} (h : Denotes l e x)
    {b : Option Char} {a : List Char} (hb : b.any endsOperand = false)
    (ha : (a.dropWhile (· == ' ')).head?.any beginsOperand = false) :
    Nowhere NeighboursAt b e a := by
  have hsign {c : Char} (hc : c ≠ ' ') {b : Option Char} {r : List Char} :
      ¬ NeighboursAt b (c :: r) := fun h => hc (Option.some.inj h.head)
  have hstop {c : Char} (hc : c ≠ ' ') (hbegins : beginsOperand c = false) {r : List Char} :
      ((c :: r).dropWhile (· == ' ')).head?.any beginsOperand = false := by
    rw [List.dropWhile_cons_of_neg (by simpa using hc)]
    exact hbegins
  -- a sign ends what is in front of it and lets an operand begin behind it
  have hjoined {e f : List Char} {c : Char} {b : Option Char} {a : List Char} (hc : c ≠ ' ')
      (hends : endsOperand c = false)
      (he : Nowhere NeighboursAt b e (c :: f ++ a))
      (hf : ∀ {b : Option Char}, b.any endsOperand = false → Nowhere NeighboursAt b f a) :
      Nowhere NeighboursAt b (e ++ c :: f) a :=
    nowhere_append.mpr ⟨he, nowhere_cons.mpr ⟨hsign hc, hf hends⟩⟩
  induction h generalizing b a with
  | numeral hn =>
    apply nowhere_of_not_mem fun _ _ => NeighboursAt.head
    intro hspace
    rcases hn.mem hspace with h | h <;> exact absurd h (by decide)
  | enclosed _ ih =>
    refine nowhere_cons.mpr ⟨hsign (by decide), nowhere_append.mpr ⟨?_, ?_⟩⟩
    · exact ih (by decide) (hstop (by decide) (by decide))
    · exact nowhere_cons.mpr ⟨hsign (by decide), nowhere_nil _ _ _⟩
  | factor _ ih | product _ ih => exact ih hb ha
  | times _ _ ihe ihf | divided _ _ _ ihe ihf | plus _ _ ihe ihf | minus _ _ ihe ihf =>
    exact hjoined (by decide) (by decide) (ihe hb (hstop (by decide) (by decide)))
      fun hb' => ihf hb' ha
  | negative _ ih => exact nowhere_cons.mpr ⟨hsign (by decide), ih (by decide) ha⟩
  | spaceBefore _ ih =>
    refine nowhere_cons.mpr ⟨fun hn => ?_, ih (by decide) ha⟩
    exact Bool.false_ne_true (hb.symm.trans hn.1)
  | spaceBehind _ ih =>
    refine nowhere_append.mpr ⟨ih hb (by simpa using ha), nowhere_cons.mpr ⟨?_, nowhere_nil _ _ _⟩⟩
    rintro ⟨-, r, hr, hbegins⟩
    obtain ⟨-, rfl⟩ := List.cons.inj hr
    exact Bool.false_ne_true (ha.symm.trans (by simpa using hbegins))

end CalcSpeech.Expression
