import Stencil.Proofs.Assoc.Places
import Stencil.Proofs.Scope
import Stencil.Proofs.Text.Bytes
import Stencil.Proofs.Value.Equality

/-!
# Proofs/Scope/Names — which paths lead somewhere, and what is listed for the others

    root, or root with locals ──derive──▸ … ──derive──▸ scope

However a scope was built, it is its root with all that was bound on the way as locals
(`Scope.Built.eq_withLocals`).  So a name stands for what it was last bound to, or else for what the root
has under it (`Scope.top?_eq_some`), and from there a path leads on segment by segment, by keys of mappings
and places in sequences (`Value.follow?_eq_some`).  A path that leads nowhere is an error with all names in
scope, each once: the bound ones in the order of their bytes, then the keys of the root that are not hidden,
in the order of the root (`Scope.lookup_of_built`).
-/

namespace Stencil

/-! ## Segments -/

/-- The segments of a path: what stands between the dots, without the white space around it. -/
def Path.segments (p : Path) : List String := (p.text.toList.splitOn '.').map segment

theorem Path.split_eq_splitOn (separator : Char) (cs : List Char) :
    (split separator cs).1 :: (split separator cs).2 = cs.splitOn separator := by
  induction cs with
  | nil => rfl
  | cons c rest ih =>
    rw [split, List.splitOn_cons_eq_if_modifyHead, ← ih]
    by_cases hc : c = separator
    · simp [hc]
    · simp [hc]

theorem Path.segments_eq (p : Path) : p.segments = p.head :: p.tail := by
  rw [segments, ← split_eq_splitOn]
  rfl

/-! ## Indices -/

/-- A text spells an index: in decimal digits, perhaps behind zeros and a plus sign. -/
def SpellsIndex (segment : String) (i : Nat) : Prop :=
  ∃ sign zeros, (sign = [] ∨ sign = ['+']) ∧
    segment.toList = sign ++ (List.replicate zeros '0' ++ Nat.toDigits 10 i)

/-- A digit is what its number is written as. -/
theorem digit_bounds {c : Char} (h : c.isDigit = true) :
    c.toNat - '0'.toNat < 10 ∧ Nat.toDigits 10 (c.toNat - '0'.toNat) = [c] := by
  have hlow : 48 ≤ c.toNat :=
    UInt32.le_iff_toNat_le.1 (of_decide_eq_true (Bool.and_eq_true_iff.1 h).1)
  have hhigh : c.toNat ≤ 57 :=
    UInt32.le_iff_toNat_le.1 (of_decide_eq_true (Bool.and_eq_true_iff.1 h).2)
  have hzero : '0'.toNat = 48 := rfl
  have hten : c.toNat - '0'.toNat < 10 := by omega
  refine ⟨hten, ?_⟩
  rw [Nat.toDigits_of_lt_base hten, List.singleton_inj, ← Char.toNat_inj,
    Nat.toNat_digitChar_of_lt_ten hten]
  omega

/-- **Digits are zeros and then the digits of their number.** -/
theorem Decimal.Digits.eq_zeros_append {ds : List Char} (h : Decimal.Digits ds) (hne : ds ≠ []) :
    ∃ zeros, ds = List.replicate zeros '0' ++ Nat.toDigits 10 (Nat.ofDigitChars 10 ds 0) := by
  -- from the end: the last digit is written behind the others, unless these are zeros only
  induction ds using List.reverseRecOn with
  | nil => exact absurd rfl hne
  | append_singleton front c ih =>
    obtain ⟨hten, hdigit⟩ := digit_bounds (h c (by simp))
    rw [Nat.ofDigitChars_append, Nat.ofDigitChars_cons, Nat.ofDigitChars_nil]
    by_cases hfront : front = []
    · refine ⟨0, ?_⟩
      rw [hfront, Nat.ofDigitChars_nil, Nat.mul_zero, Nat.zero_add, hdigit]
      rfl
    obtain ⟨zeros, hzeros⟩ := ih (fun d hd => h d (List.mem_append_left _ hd)) hfront
    rcases Nat.eq_zero_or_pos (Nat.ofDigitChars 10 front 0) with hvalue | hvalue
    · refine ⟨zeros + 1, ?_⟩
      rw [hvalue, Nat.toDigits_zero] at hzeros
      rw [hvalue, Nat.mul_zero, Nat.zero_add, hdigit, hzeros, List.replicate_succ']
    · refine ⟨zeros, ?_⟩
      rw [← Nat.toDigits_append_toDigits (by decide) hvalue hten, hdigit, ← List.append_assoc, ← hzeros]

/-- Zeros and the digits of a number are digits. -/
theorem digits_zeros_append (zeros i : Nat) :
    Decimal.Digits (List.replicate zeros '0' ++ Nat.toDigits 10 i) :=
  (Decimal.digits_replicate_zero zeros).append (Decimal.digits_toDigits i)

/-- What is read without a sign is read if it is zeros and the digits of a number. -/
theorem readDigits_eq_some {ds : List Char} {i : Nat} :
    (if ds ≠ [] ∧ ds.all Char.isDigit = true then some (Nat.ofDigitChars 10 ds 0) else none) = some i ↔
      ∃ zeros, ds = List.replicate zeros '0' ++ Nat.toDigits 10 i := by
  rw [Option.ite_none_right_eq_some, Option.some.injEq]
  constructor
  · rintro ⟨⟨hne, hdigits⟩, rfl⟩
    exact (Decimal.digits_iff.2 hdigits).eq_zeros_append hne
  · rintro ⟨zeros, rfl⟩
    refine ⟨⟨by simp [Nat.toDigits_ne_nil], Decimal.digits_iff.1 (digits_zeros_append zeros i)⟩, ?_⟩
    exact (Decimal.ofDigits_zeros_append zeros _).trans (Decimal.ofDigits_toDigits i)

/-- **The index that a segment is read as is the one it spells.** -/
theorem readIndex?_eq_some {segment : String} {i : Nat} :
    readIndex? segment = some i ↔ SpellsIndex segment i := by
  unfold readIndex? SpellsIndex
  dsimp only
  split
  · next rest htext =>
    rw [readDigits_eq_some, htext]
    constructor
    · rintro ⟨zeros, rfl⟩
      exact ⟨['+'], zeros, .inr rfl, rfl⟩
    · rintro ⟨sign, zeros, rfl | rfl, hspelled⟩
      · have hplus := digits_zeros_append zeros i '+' (hspelled ▸ List.mem_cons_self)
        exact absurd rfl (Decimal.ne_sign_of_isDigit hplus).2
      · exact ⟨zeros, (List.cons.inj hspelled).2⟩
  · next hunsigned =>
    rw [readDigits_eq_some]
    constructor
    · rintro ⟨zeros, hspelled⟩
      exact ⟨[], zeros, .inl rfl, hspelled⟩
    · rintro ⟨sign, zeros, rfl | rfl, hspelled⟩
      · exact ⟨zeros, hspelled⟩
      · exact absurd hspelled (hunsigned _)

/-! ## Where segments lead -/

namespace Value

/-- The value one segment below: the last one that a mapping was given under this key, or the item of a
sequence at this place. -/
inductive Below : Value → String → Value → Prop
  | entry {written : List (String × Value)} {key : String} {value : Value}
      (last : Assoc.Last written key value) : Below (.mapping written) key value
  | item {items : List Value} {segment : String} {i : Nat} {value : Value}
      (spells : SpellsIndex segment i) (inside : items[i]? = some value) :
      Below (.sequence items) segment value

/-- Where segments lead from a value, one after another. -/
inductive Leads : Value → List String → Value → Prop
  | here (value : Value) : Leads value [] value
  | step {value child target : Value} {segment : String} {rest : List String}
      (below : value.Below segment child) (further : child.Leads rest target) :
      Leads value (segment :: rest) target

theorem child?_eq_some {value child : Value} {segment : String} :
    value.child? segment = some child ↔ value.Below segment child := by
  constructor
  · intro h
    cases value with
    | mapping written => exact .entry (Assoc.find?_ofEntries_eq_some.1 h)
    | sequence items =>
      obtain ⟨i, hi, hitem⟩ := Option.bind_eq_some_iff.1 h
      exact .item (readIndex?_eq_some.1 hi) hitem
    | _ => exact absurd h.symm (Option.some_ne_none child)
  · rintro (last | ⟨spells, inside⟩)
    · exact Assoc.find?_ofEntries_eq_some.2 last
    · exact Option.bind_eq_some_iff.2 ⟨_, readIndex?_eq_some.2 spells, inside⟩

/-- **Following segments is being led by them.** -/
theorem follow?_eq_some {value target : Value} {segments : List String} :
    value.follow? segments = some target ↔ value.Leads segments target := by
  induction segments generalizing value with
  | nil =>
    constructor
    · intro h
      obtain rfl := Option.some.inj h
      exact .here _
    · rintro ⟨⟩
      rfl
  | cons segment rest ih =>
    rw [follow?, Option.bind_eq_some_iff]
    constructor
    · rintro ⟨child, hchild, hrest⟩
      exact .step (child?_eq_some.1 hchild) (ih.1 hrest)
    · rintro (_ | ⟨below, further⟩)
      exact ⟨_, child?_eq_some.2 below, ih.2 further⟩

end Value

namespace Scope

/-! ## Scopes as they are built -/

/-- The scopes that there are, with all that was bound on the way, in order: the data alone or with
locals, and bindings on top of a scope. -/
inductive Built (root : Value) : List (String × Value) → Scope → Prop
  | ofRoot : Built root [] (.ofRoot root)
  | withLocals (bindings : List (String × Value)) : Built root bindings (.withLocals root bindings)
  | derive {bound : List (String × Value)} {scope : Scope} (outer : Built root bound scope)
      (bindings : List (String × Value)) : Built root (bound ++ bindings) (scope.derive bindings)

variable {root : Value} {bound : List (String × Value)} {scope : Scope}

/-- **A scope is its root with all that was bound.** -/
theorem Built.eq_withLocals (h : Built root bound scope) : scope = .withLocals root bound := by
  induction h with
  | ofRoot => rfl
  | withLocals bindings => rfl
  | derive outer bindings ih =>
    rw [ih, Scope.derive, Scope.withLocals, Dictionary.insertAll, Dictionary.insertAll,
      ← List.foldl_append]
    rfl

/-! ## What names stand for -/

/-- What a name stands for: what it was last bound to, and if it was not bound, what a mapping at the root
has under it. -/
def StandsFor (root : Value) (bound : List (String × Value)) (name : String) (value : Value) : Prop :=
  Assoc.Last bound name value ∨
    name ∉ Assoc.names bound ∧ ∃ written, root = .mapping written ∧ Assoc.Last written name value

/-- Where a path leads: on from what its first segment stands for. -/
def Resolves (root : Value) (bound : List (String × Value)) (path : Path) (target : Value) : Prop :=
  ∃ name rest value, path.segments = name :: rest ∧ StandsFor root bound name value ∧
    value.Leads rest target

/-- The keys of a mapping in the order in which they came up first; other values have none. -/
def rootKeys : Value → List String
  | .mapping written => (Assoc.names written).eraseDups
  | _ => []

/-- The locals are the names that were bound. -/
theorem mem_names_withLocals (root : Value) {name : String} :
    name ∈ (withLocals root bound).locals.names ↔ name ∈ Assoc.names bound := by
  rw [Dictionary.mem_names, Assoc.mem_names_iff_exists_last]
  exact exists_congr fun value => Dictionary.find?_empty_insertAll_eq_some

/-- What is found in the root came last under the name. -/
theorem find?_rootFields (bound : List (String × Value)) {name : String} {value : Value} :
    Assoc.find? name (withLocals root bound).rootFields = some value ↔
      ∃ written, root = .mapping written ∧ Assoc.Last written name value := by
  constructor
  · intro h
    cases root with
    | mapping written => exact ⟨written, rfl, Assoc.find?_ofEntries_eq_some.1 h⟩
    | _ => exact absurd h.symm (Option.some_ne_none value)
  · rintro ⟨written, rfl, last⟩
    exact Assoc.find?_ofEntries_eq_some.2 last

theorem names_rootFields (bound : List (String × Value)) :
    Assoc.names (withLocals root bound).rootFields = rootKeys root := by
  cases root with
  | mapping written => exact Assoc.names_ofEntries written
  | _ => rfl

/-- **A name stands for what it was last bound to**, or else for what the root has under it. -/
theorem top?_eq_some {name : String} {value : Value} :
    (withLocals root bound).top? name = some value ↔ StandsFor root bound name value := by
  rw [top?]
  rcases hlocal : (withLocals root bound).locals.find? name with _ | other
  · have hfree : name ∉ Assoc.names bound := by
      rw [← mem_names_withLocals root, Dictionary.mem_names, hlocal]
      rintro ⟨other, h⟩
      exact Option.some_ne_none other h.symm
    refine (find?_rootFields bound).trans ⟨fun h => .inr ⟨hfree, h⟩, ?_⟩
    rintro (last | ⟨-, h⟩)
    · exact absurd (Assoc.mem_names_iff_exists_last.2 ⟨value, last⟩) hfree
    · exact h
  · have last : Assoc.Last bound name other := Dictionary.find?_empty_insertAll_eq_some.1 hlocal
    constructor
    · rintro ⟨⟩
      exact .inl last
    · rintro (hvalue | ⟨hfree, -⟩)
      · exact hlocal.symm.trans (Dictionary.find?_empty_insertAll_eq_some.2 hvalue)
      · exact absurd (Assoc.mem_names_iff_exists_last.2 ⟨other, last⟩) hfree

/-- **A path leads on from what its first segment stands for.** -/
theorem find?_eq_some {path : Path} {target : Value} :
    (withLocals root bound).find? path = some target ↔ Resolves root bound path target := by
  rw [find?, Option.bind_eq_some_iff]
  constructor
  · rintro ⟨value, hvalue, htarget⟩
    exact ⟨path.head, path.tail, value, path.segments_eq, top?_eq_some.1 hvalue,
      Value.follow?_eq_some.1 htarget⟩
  · rintro ⟨name, rest, value, hsegments, hvalue, htarget⟩
    obtain ⟨rfl, rfl⟩ := List.cons.inj (path.segments_eq.symm.trans hsegments)
    exact ⟨value, top?_eq_some.2 hvalue, Value.follow?_eq_some.2 htarget⟩

/-! ## The names in scope -/

theorem available_eq : (withLocals root bound).available =
    (withLocals root bound).locals.names ++ (rootKeys root).filter (· ∉ Assoc.names bound) := by
  rw [available, names_rootFields]
  refine congrArg _ (List.filter_congr fun key _ => ?_)
  rw [Bool.eq_iff_iff, decide_eq_true_iff, ← mem_names_withLocals root, Dictionary.mem_names,
    Option.isNone_iff_eq_none, Option.eq_none_iff_forall_ne_some, not_exists]

/-- The locals are in the order of their bytes. -/
theorem pairwise_bytes_names (d : Dictionary Value) :
    d.names.Pairwise fun a b => Text.bytes a < Text.bytes b :=
  List.pairwise_map.2 (d.increasing.imp Text.bytes_lt_bytes)

theorem mem_rootKeys {name : String} : name ∈ rootKeys root ↔
    ∃ value written, root = .mapping written ∧ Assoc.Last written name value := by
  simp only [← find?_rootFields []]
  rw [← names_rootFields []]
  exact ⟨Assoc.exists_find?_of_mem_names, fun ⟨_, h⟩ => Assoc.mem_names (Assoc.mem_of_find? h)⟩

/-- **The names that are listed are those that stand for something.** -/
theorem mem_available {name : String} : name ∈ (withLocals root bound).available ↔
    ∃ value, StandsFor root bound name value := by
  rw [available_eq, List.mem_append, mem_names_withLocals, List.mem_filter, decide_eq_true_iff,
    mem_rootKeys, Assoc.mem_names_iff_exists_last]
  constructor
  · rintro (⟨value, last⟩ | ⟨⟨value, hroot⟩, hfree⟩)
    · exact ⟨value, .inl last⟩
    · exact ⟨value, .inr ⟨mt Assoc.mem_names_iff_exists_last.1 hfree, hroot⟩⟩
  · rintro ⟨value, last | ⟨hfree, hroot⟩⟩
    · exact .inl ⟨value, last⟩
    · exact .inr ⟨⟨value, hroot⟩, mt Assoc.mem_names_iff_exists_last.2 hfree⟩

/-- **No name is listed twice.** -/
theorem nodup_available : (withLocals root bound).available.Nodup := by
  have hkeys : (rootKeys root).Nodup := by
    cases root with
    | mapping written =>
      have hnodup := Assoc.nodup_names_ofEntries written
      rwa [Assoc.names_ofEntries] at hnodup
    | _ => exact .nil
  rw [available_eq]
  refine List.nodup_append.2 ⟨Dictionary.nodup_names _, hkeys.filter _, fun name hlocal key hkey => ?_⟩
  rintro rfl
  exact of_decide_eq_true (List.mem_filter.1 hkey).2 ((mem_names_withLocals root).1 hlocal)

/-- **Where paths lead, and what is listed for those that lead nowhere.**  In a scope that was built with
some bindings a path is looked up as the value that it leads to.  A path that leads nowhere is an error with
the names in scope, each once: those that were bound in the order of their bytes, and then the keys of the
root that were not, in the order of the root. -/
theorem lookup_of_built (h : Built root bound scope) (path : Path) :
    (∀ value, scope.lookup path = .ok value ↔ Resolves root bound path value) ∧
      ((¬ ∃ value, Resolves root bound path value) → ∃ locals keys,
        scope.lookup path = .error (.undefined path (locals ++ keys)) ∧
        (∀ name, name ∈ locals ↔ name ∈ Assoc.names bound) ∧
        locals.Pairwise (fun a b => Text.bytes a < Text.bytes b) ∧
        keys = (rootKeys root).filter (· ∉ Assoc.names bound) ∧
        (locals ++ keys).Nodup ∧
        ∀ name, name ∈ locals ++ keys ↔ ∃ value, StandsFor root bound name value) := by
  obtain rfl := h.eq_withLocals
  refine ⟨fun value => lookup_eq_ok.trans find?_eq_some, fun hlost => ?_⟩
  have hnone : (withLocals root bound).find? path = none :=
    Option.eq_none_iff_forall_ne_some.2 fun value hvalue => hlost ⟨value, find?_eq_some.1 hvalue⟩
  refine ⟨_, _, ?_, fun name => mem_names_withLocals root, pairwise_bytes_names _, rfl, ?_⟩
  · rw [lookup, hnone, available_eq]
  · rw [← available_eq]
    exact ⟨nodup_available, fun name => mem_available⟩

/-- A name that was bound twice and hides nothing, one that hides a key of the root, a key that was given
twice, and a path that leaves a sequence. -/
theorem lookup_of_built_hidden :
    let root : Value := .mapping [("tags", .null), ("user", .sequence [.null]), ("b", .null), ("tags", .null)]
    let outer : List (String × Value) := [("z", .null), ("a", .null)]
    let inner : List (String × Value) := [("b", .null), ("a", .bool true)]
    let scope := (Scope.withLocals root outer).derive inner
    let path : Path := ⟨" user .+01"⟩
    Built root (outer ++ inner) scope ∧ (¬ ∃ value, Resolves root (outer ++ inner) path value) ∧
      ∃ locals keys, scope.lookup path = .error (.undefined path (locals ++ keys)) ∧
        locals ++ keys = ["a", "b", "z", "tags", "user"] ∧
        keys = (rootKeys root).filter (· ∉ Assoc.names (outer ++ inner)) := by
  intro root outer inner scope path
  have hbuilt : Built root (outer ++ inner) scope := .derive (.withLocals outer) inner
  have hnone : (scope.find? path).isNone = true := by decide
  have havailable : scope.available = ["a", "b", "z", "tags", "user"] := by decide
  have hlookup : scope.lookup path = .error (.undefined path ["a", "b", "z", "tags", "user"]) := by
    rw [lookup, Option.isNone_iff_eq_none.1 hnone, havailable]
  obtain ⟨hresolves, hlost⟩ := lookup_of_built hbuilt path
  have hnowhere : ¬ ∃ value, Resolves root (outer ++ inner) path value := by
    rintro ⟨value, hvalue⟩
    cases hlookup.symm.trans ((hresolves value).2 hvalue)
  obtain ⟨locals, keys, herror, -, -, hkeys, -⟩ := hlost hnowhere
  have hsame := Except.error.inj (herror.symm.trans hlookup)
  exact ⟨hbuilt, hnowhere, locals, keys, herror, (PathError.undefined.inj hsame).2, hkeys⟩

end Scope

end Stencil
