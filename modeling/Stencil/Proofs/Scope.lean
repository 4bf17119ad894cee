import Stencil.Notice
import Stencil.Proofs.Dictionary
import Stencil.Proofs.Number.Spelling
import Stencil.Scope

/-!
# Proofs/Scope — where paths lead, and what bindings change

Splitting a text at dots commutes with writing a second one behind it that begins with a dot.  So a path
that goes on behind another leads on from where that one leads to (`Scope.find?_extend`), be it the rest
of a path or the place of an item (`Scope.find?_item`).

Bindings change what their own names stand for and nothing else (`Scope.top?_derive_of_notMem`), and they
change it alike in all scopes (`Scope.top?_derive_congr`).
-/

namespace Stencil

/-! ## Segments -/

namespace Path

/-- **What is written from a separator on adds its pieces**, and leaves those in front as they are. -/
theorem split_append_dropWhile (separator : Char) (front cs : List Char) :
    split separator (front ++ cs.dropWhile (· ≠ separator)) =
      ((split separator front).1, (split separator front).2 ++ (split separator cs).2) := by
  induction front with
  | nil =>
    induction cs with
    | nil => rfl
    | cons c rest ih =>
      by_cases hc : c = separator
      · simp [split, hc]
      · simpa [split, hc] using ih
  | cons c rest ih =>
    rw [List.cons_append, split, ih, split]
    by_cases hc : c = separator
    · simp [hc]
    · simp [hc]

theorem split_of_notMem {separator : Char} {cs : List Char} (h : separator ∉ cs) :
    split separator cs = (cs, []) := by
  induction cs with
  | nil => rfl
  | cons c rest ih =>
    obtain ⟨hc, hrest⟩ := not_or.1 (List.mem_cons.not.1 h)
    rw [split, ih hrest]
    exact if_neg (Ne.symm hc)

/-- The path `p` with what `q` says behind its first segment. -/
def extend (p q : Path) : Path :=
  ⟨p.text ++ String.ofList (q.text.toList.dropWhile (· ≠ '.'))⟩

theorem split_extend (p q : Path) :
    split '.' (p.extend q).text.toList =
      ((split '.' p.text.toList).1, (split '.' p.text.toList).2 ++ (split '.' q.text.toList).2) := by
  rw [extend, String.toList_append, String.toList_ofList, split_append_dropWhile]

@[simp] theorem head_extend (p q : Path) : (p.extend q).head = p.head := by
  rw [head, head, split_extend]

@[simp] theorem tail_extend (p q : Path) : (p.extend q).tail = p.tail ++ q.tail := by
  rw [tail, tail, tail, split_extend, List.map_append]

end Path

/-! ## Where paths lead -/

theorem Value.follow?_append (value : Value) (front back : List String) :
    value.follow? (front ++ back) = (value.follow? front).bind (·.follow? back) := by
  induction front generalizing value with
  | nil => rfl
  | cons segment rest ih =>
    rw [List.cons_append, follow?, follow?]
    cases value.child? segment with
    | none => rfl
    | some child => exact ih child

/-- **A path that is written behind another leads on from there.** -/
theorem Scope.find?_extend (scope : Scope) (p q : Path) :
    scope.find? (p.extend q) = (scope.find? p).bind (·.follow? q.tail) := by
  rw [find?, find?, Path.head_extend, Path.tail_extend, Option.bind_assoc]
  exact congrArg (Option.bind _) (funext fun value => value.follow?_append p.tail q.tail)

/-! ## Items of sequences -/

/-- The place of an item of the sequence at a path. -/
def Path.item (p : Path) (i : Nat) : Path := ⟨p.text ++ "." ++ countText i⟩

theorem Path.item_eq_extend (p : Path) (i : Nat) : p.item i = p.extend ⟨"." ++ countText i⟩ := by
  have hdot : ("." ++ countText i).toList = '.' :: (countText i).toList := String.toList_append
  rw [item, extend, hdot, List.dropWhile_cons_of_neg (by simp), ← hdot, String.ofList_toList,
    String.append_assoc]

/-- The digits of a number are one segment. -/
theorem Path.tail_countText (i : Nat) : (⟨"." ++ countText i⟩ : Path).tail = [countText i] := by
  have hdigits : ∀ c ∈ (countText i).toList, c.isDigit = true := by
    rw [countText, String.toList_ofList]
    exact Decimal.digits_toDigits i
  have hdot : '.' ∉ (countText i).toList := fun h => absurd (hdigits '.' h) (by decide)
  have hsplit : split '.' ("." ++ countText i).toList = ([], [(countText i).toList]) := by
    rw [String.toList_append]
    change split '.' ('.' :: (countText i).toList) = _
    rw [split, split_of_notMem hdot]
    rfl
  rw [tail, hsplit, List.map_singleton, segment,
    Text.trim_eq_self fun c hc => Text.isBlank_of_isDigit (hdigits c hc), String.ofList_toList]

/-- The digits of a number are read as that index. -/
theorem readIndex?_countText (i : Nat) : readIndex? (countText i) = some i := by
  have hdigits := Decimal.digits_toDigits i
  have hplus : ∀ rest, Nat.toDigits 10 i ≠ '+' :: rest := fun rest h =>
    absurd rfl (Decimal.ne_sign_of_isDigit (hdigits '+' (h ▸ .head rest))).2
  have hread : Nat.toDigits 10 i ≠ [] ∧ (Nat.toDigits 10 i).all Char.isDigit = true :=
    ⟨Nat.toDigits_ne_nil, List.all_eq_true.2 hdigits⟩
  simp only [readIndex?, countText, String.toList_ofList, if_pos hread,
    Nat.ofDigitChars_ten_toDigits]

/-- **The place of an item leads to the item.** -/
theorem Scope.find?_item {scope : Scope} {p : Path} {items : List Value}
    (h : scope.find? p = some (.sequence items)) (i : Nat) : scope.find? (p.item i) = items[i]? := by
  rw [Path.item_eq_extend, find?_extend, h, Path.tail_countText, Option.bind_some, Value.follow?,
    Value.child?, readIndex?_countText, Option.bind_some]
  cases items[i]? <;> rfl

/-! ## Bindings -/

namespace Scope

/-- A binding is found under its name, and hides nothing else. -/
theorem top?_derive_singleton (scope : Scope) (key name : String) (value : Value) :
    (scope.derive [(key, value)]).top? name = if key = name then some value else scope.top? name := by
  have hfind : (scope.derive [(key, value)]).locals.find? name =
      if key = name then some value else scope.locals.find? name := Dictionary.find?_insert key name value
  by_cases hkey : key = name
  · rw [top?, hfind, if_pos hkey, if_pos hkey]
  · rw [top?, hfind, if_neg hkey, if_neg hkey]
    rfl

/-- **Names that stand for the same still do behind the same bindings.** -/
theorem top?_derive_congr {a b : Scope} {name : String} (h : a.top? name = b.top? name)
    (bindings : List (String × Value)) :
    (a.derive bindings).top? name = (b.derive bindings).top? name := by
  induction bindings generalizing a b with
  | nil => exact h
  | cons binding rest ih =>
    have hfirst : (a.derive [binding]).top? name = (b.derive [binding]).top? name := by
      rw [top?_derive_singleton, top?_derive_singleton, h]
    exact ih hfirst

/-- A name that is not bound stands for what it did. -/
theorem top?_derive_of_notMem {name : String} {bindings : List (String × Value)}
    (h : name ∉ bindings.map Prod.fst) (scope : Scope) :
    (scope.derive bindings).top? name = scope.top? name := by
  induction bindings generalizing scope with
  | nil => rfl
  | cons binding rest ih =>
    obtain ⟨hfirst, hrest⟩ := not_or.1 (List.mem_cons.not.1 h)
    have hsame : (scope.derive [binding]).top? name = scope.top? name := by
      rw [top?_derive_singleton, if_neg (Ne.symm hfirst)]
    exact (ih hrest (scope.derive [binding])).trans hsame

/-- A path of which the first name is not bound leads to where it did. -/
theorem find?_derive_of_notMem {p : Path} {bindings : List (String × Value)}
    (h : p.head ∉ bindings.map Prod.fst) (scope : Scope) :
    (scope.derive bindings).find? p = scope.find? p := by
  rw [find?, find?, top?_derive_of_notMem h]

end Scope

end Stencil
