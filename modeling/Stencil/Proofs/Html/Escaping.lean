import Mathlib.Data.List.Basic
import Stencil.Html.Writer
import Stencil.Proofs.Html.Reference

/-!
# Proofs/Html/Escaping — escaped texts are inert and can be read back

    s ──escape──▸ no markup, and no `&` but those of references ──unescape──▸ s

Every character is written on its own, as itself or as one of five references, so whatever is read from the
left comes to the end of a reference where writing did (`unescape_encodeChar`), and an ampersand can only be
the first character of a reference (`encode_refers`).  Which texts are escaped is up to the parent alone:
scripts and styles hold their own texts as they are, and the elements in them are written like any others
(`html_element`).
-/

namespace Stencil

namespace Html

/-- A text as it is written. -/
def escape (setting : Setting) (s : String) : String := String.ofList (encode setting s.toList)

/-- The text that is left when the five references are resolved from left to right. -/
def unescape : List Char → List Char
  | '&' :: 'a' :: 'm' :: 'p' :: ';' :: rest => '&' :: unescape rest
  | '&' :: 'l' :: 't' :: ';' :: rest => '<' :: unescape rest
  | '&' :: 'g' :: 't' :: ';' :: rest => '>' :: unescape rest
  | '&' :: 'q' :: 'u' :: 'o' :: 't' :: ';' :: rest => '"' :: unescape rest
  | '&' :: 'n' :: 'b' :: 's' :: 'p' :: ';' :: rest => '\u00a0' :: unescape rest
  | c :: rest => c :: unescape rest
  | [] => []

/-! ## Reading back -/

/-- Only an ampersand begins a reference. -/
theorem unescape_cons {c : Char} (h : c ≠ '&') (rest : List Char) :
    unescape (c :: rest) = c :: unescape rest := by
  rw [unescape] <;> exact fun _ hamp => absurd hamp h

/-- A reference is resolved, whatever comes behind it. -/
theorem unescape_reference {name : List Char} {c : Char} (h : (name, c) ∈ namedChars)
    (rest : List Char) : unescape ('&' :: (name ++ ';' :: rest)) = c :: unescape rest := by
  simp only [namedChars, List.mem_cons, Prod.mk.injEq, List.not_mem_nil, or_false] at h
  rcases h with ⟨rfl, rfl⟩ | ⟨rfl, rfl⟩ | ⟨rfl, rfl⟩ | ⟨rfl, rfl⟩ | ⟨rfl, rfl⟩ <;> rfl

/-- **A written character is read back**, whatever comes behind it. -/
theorem unescape_encodeChar (setting : Setting) (c : Char) (rest : List Char) :
    unescape (encodeChar setting c ++ rest) = c :: unescape rest := by
  obtain ⟨hself, hamp⟩ | ⟨name, hname, href⟩ := encodeChar_cases setting c
  · rw [hself, List.singleton_append, unescape_cons hamp]
  · rw [href, List.cons_append, List.append_assoc, List.singleton_append, unescape_reference hname]

/-- **An escaped text is read back.** -/
theorem unescape_encode (setting : Setting) (cs : List Char) : unescape (encode setting cs) = cs := by
  unfold encode
  induction cs with
  | nil => rfl
  | cons c rest ih => rw [List.flatMap_cons, unescape_encodeChar, ih]

/-! ## Characters that need a reference -/

/-- An escaped text has no `>`. -/
theorem closing_not_mem_encode (cs : List Char) : '>' ∉ encode .text cs := fun h =>
  (mem_encode .text h).elim (by decide) fun hself => absurd hself.2 (by decide)

theorem nbsp_not_mem_encode (setting : Setting) (cs : List Char) : '\u00a0' ∉ encode setting cs := fun h =>
  (mem_encode setting h).elim (by decide) fun hself => by
    have hwritten : '\u00a0' ∉ encodeChar setting '\u00a0' := by cases setting <;> decide
    exact hwritten hself.2

/-- Some characters in which every ampersand begins a reference. -/
def Refers (cs : List Char) : Prop :=
  ∀ before after, cs = before ++ '&' :: after → ∃ entry ∈ namedChars, entry.1 ++ [';'] <+: after

theorem Refers.append {cs ds : List Char} (hcs : Refers cs) (hds : Refers ds) : Refers (cs ++ ds) := by
  intro before after hsplit
  obtain ⟨behind, -, hlast⟩ | ⟨middle, hfirst, hrest⟩ := List.append_eq_append_iff.1 hsplit
  · exact hds behind after hlast
  · -- the ampersand stands in the first part, unless that ends right before it
    rcases middle with _ | ⟨c, middle⟩
    · exact hds [] after hrest.symm
    · obtain ⟨rfl, rfl⟩ := List.cons.inj hrest
      obtain ⟨entry, hentry, hname⟩ := hcs before middle hfirst
      exact ⟨entry, hentry, hname.trans (List.prefix_append middle ds)⟩

/-- The ampersand of a written character begins its reference. -/
theorem refers_encodeChar (setting : Setting) (c : Char) : Refers (encodeChar setting c) := by
  intro before after hsplit
  have hamp : '&' ∈ encodeChar setting c := hsplit ▸ by simp
  obtain ⟨hself, hne⟩ | ⟨name, hname, href⟩ := encodeChar_cases setting c
  · rw [hself, List.mem_singleton] at hamp
    exact absurd hamp.symm hne
  · rw [href] at hsplit
    rcases before with _ | ⟨d, before⟩
    · exact ⟨(name, c), hname, (List.cons.inj hsplit).2 ▸ List.prefix_rfl⟩
    · have hfree : ∀ entry ∈ namedChars, '&' ∉ entry.1 ++ [';'] := by decide
      have hinside : '&' ∈ name ++ [';'] := (List.cons.inj hsplit).2 ▸ by simp
      exact absurd hinside (hfree _ hname)

/-- **Every ampersand of an escaped text begins a reference.** -/
theorem encode_refers (setting : Setting) (cs : List Char) : Refers (encode setting cs) := by
  unfold encode
  induction cs with
  | nil => exact fun before after hsplit => absurd hsplit.symm (by simp)
  | cons c rest ih =>
    rw [List.flatMap_cons]
    exact (refers_encodeChar setting c).append ih

/-! ## Nodes -/

/-- **The HTML of siblings is that of one after another.** -/
theorem ofNodes_eq_join (nodes : List Node) : ofNodes nodes = String.join (nodes.map Node.html) := by
  induction nodes with
  | nil => rfl
  | cons n rest ih =>
    rw [List.map_cons, String.join_cons, ← ih, Node.html, ofNodes, ofNodes, writeNodes,
      String.ofList_append]

/-- A child as it is written: a text as it is in a script or a style and escaped in other elements, and an
element like anywhere. -/
def child (tag : String) (n : Node) : String :=
  match n.text? with
  | some content => if tag ∈ rawTags then content else escape .text content
  | none => n.html

theorem writeNodes_eq_join (tag : String) (nodes : List Node) :
    String.ofList (writeNodes (decide (tag ∈ rawTags)) nodes) = String.join (nodes.map (child tag)) := by
  induction nodes with
  | nil => rfl
  | cons n rest ih =>
    rw [writeNodes, String.ofList_append, ih, List.map_cons, String.join_cons]
    refine congrArg (· ++ _) ?_
    obtain ⟨content | other, attributes, children⟩ := n
    · rw [writeNode, apply_ite String.ofList, String.ofList_toList]
      exact if_congr decide_eq_true_iff rfl rfl
    · rw [writeNode]
      rfl

/-- **The HTML of an element**: its start tag, and unless it is a void one its children, one after another,
and its end tag. -/
theorem html_element (tag : String) (attributes : Assoc String) (children : List Node) :
    (Node.mk (.element tag) attributes children).html =
      String.ofList (writeStart tag attributes) ++ if tag ∈ voidTags then ""
        else String.join (children.map (child tag)) ++ String.ofList (writeEnd tag) := by
  rw [Node.html, writeNode, String.ofList_append]
  split
  · rfl
  · rw [String.ofList_append, writeNodes_eq_join]

/-! ## Escaping -/

theorem toList_escape (setting : Setting) (s : String) :
    (escape setting s).toList = encode setting s.toList := String.toList_ofList

theorem unescape_escape (setting : Setting) (s : String) :
    unescape (escape setting s).toList = s.toList := by rw [toList_escape, unescape_encode]

theorem escape_injective (setting : Setting) : Function.Injective (escape setting) := fun s t h =>
  String.toList_inj.1 (by rw [← unescape_escape setting s, h, unescape_escape])

/-- **Escaping is safe and can be undone.**  A text is escaped without angle brackets and a value without
double quotes; in both there is no no-break space, every ampersand begins one of the five references, and
resolving these from left to right gives back the text, so that no two texts are escaped alike.  Nodes are
written one after another, a text by itself is escaped, and an element holds its children as they are
written in it. -/
theorem escape_safe_and_reversible :
    (∀ s, '<' ∉ (escape .text s).toList ∧ '>' ∉ (escape .text s).toList ∧
        '"' ∉ (escape .value s).toList) ∧
      (∀ setting,
        (∀ s, Refers (escape setting s).toList ∧ '\u00a0' ∉ (escape setting s).toList ∧
          unescape (escape setting s).toList = s.toList) ∧
        Function.Injective (escape setting)) ∧
      (∀ nodes, ofNodes nodes = String.join (nodes.map Node.html)) ∧
      (∀ content attributes children,
        (Node.mk (.text content) attributes children).html = escape .text content) ∧
      ∀ tag attributes children,
        (Node.mk (.element tag) attributes children).html =
          String.ofList (writeStart tag attributes) ++ if tag ∈ voidTags then ""
            else String.join (children.map (child tag)) ++ String.ofList (writeEnd tag) := by
  refine ⟨fun s => ?_, fun setting => ⟨fun s => ?_, escape_injective setting⟩, ofNodes_eq_join,
    fun _ _ _ => rfl, html_element⟩
  · rw [toList_escape, toList_escape]
    exact ⟨angle_not_mem_encode _, closing_not_mem_encode _, quote_not_mem_encode _⟩
  · refine ⟨?_, ?_, unescape_escape setting s⟩
    · rw [toList_escape]
      exact encode_refers setting _
    · rw [toList_escape]
      exact nbsp_not_mem_encode setting _

/-- What looks like a reference is neither resolved twice nor joined with what stands beside it. -/
example : unescape (escape .text "&amp;lt; &&nbsp").toList = "&amp;lt; &&nbsp".toList := by decide

end Html

end Stencil
