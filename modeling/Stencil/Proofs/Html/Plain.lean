import Stencil.Html.Reader
import Stencil.Proofs.Html.Grammar
import Stencil.Proofs.Html.Reference

/-!
# Proofs/Html/Plain — nodes that HTML can hold as they are

    nodes ──write──▸ characters ──spell──▸ parts ──nodes──▸ nodes without some marks

Not every list of nodes can be told from its HTML: two texts side by side look like one, and what is in a
script is read as it stands.  `Plain` says which lists can.  Names are in lower case and made of letters,
digits and hyphens; texts are not empty and not side by side; void elements are empty; scripts and styles
hold nothing but a text without `<`; and every element and text is one that the parser leaves where it is.
What is in texts and values is arbitrary, but for carriage returns and null characters, which HTML does
not keep.

What is written for plain nodes is a plain fragment (`Plain.spelled`): whatever a text or a value looks like,
its characters spell just it.  What may be lost is a mark of the byte order in front of a text, where the
parser begins anew; the writer does not protect it (`unmarked`).
-/

namespace Stencil.Html

/-! ## Plain nodes -/

/-- A text of characters that HTML keeps. -/
def PlainText (content : String) : Prop := ∀ c ∈ content.toList, c ≠ '\r' ∧ c ≠ '\x00'

instance (content : String) : Decidable (PlainText content) :=
  List.decidableBAll (fun c => c ≠ '\r' ∧ c ≠ '\x00') content.toList

/-- A tag with attributes whose names are plain and distinct. -/
structure PlainStart (tag : String) (attributes : Assoc String) : Prop where
  tag : PlainName tag
  entries : ∀ entry ∈ attributes, PlainName entry.1 ∧ PlainText entry.2
  distinct : (Assoc.names attributes).Nodup

instance (tag : String) (attributes : Assoc String) : Decidable (PlainStart tag attributes) :=
  decidable_of_iff
    (PlainName tag ∧ (∀ entry ∈ attributes, PlainName entry.1 ∧ PlainText entry.2) ∧
      (Assoc.names attributes).Nodup)
    ⟨fun h => ⟨h.1, h.2.1, h.2.2⟩, fun h => ⟨h.tag, h.entries, h.distinct⟩⟩

/-- Whether some nodes begin with a text. -/
def beginsWithText (nodes : List Node) : Bool := nodes.head?.any Node.isText

/-- What a script or a style may hold. -/
inductive PlainRaw : List Node → Prop
  | empty : PlainRaw []
  | text {content : String} (nonempty : content ≠ "") (chars : PlainText content)
      (closed : '<' ∉ content.toList) : PlainRaw [.text content]

/-- **Nodes that can be told from their HTML**, inside elements of some tags. -/
inductive Plain (d : Dialect) : (around : List String) → List Node → Prop
  | nil {around} : Plain d around []
  | text {around rest} {content : String} (stays : d.text around) (nonempty : content ≠ "")
      (chars : PlainText content) (apart : beginsWithText rest = false) (behind : Plain d around rest) :
      Plain d around (.text content :: rest)
  | void {around tag attributes rest} (stays : d.element around tag) (kind : tag ∈ voidTags)
      (start : PlainStart tag attributes) (behind : Plain d around rest) :
      Plain d around (.mk (.element tag) attributes [] :: rest)
  | raw {around tag attributes children rest} (stays : d.element around tag) (kind : tag ∈ rawTags)
      (start : PlainStart tag attributes) (below : PlainRaw children) (behind : Plain d around rest) :
      Plain d around (.mk (.element tag) attributes children :: rest)
  | element {around tag attributes children rest} (stays : d.element around tag)
      (kind : tag ∉ voidTags ++ rawTags) (start : PlainStart tag attributes)
      (below : Plain d (tag :: around) children) (behind : Plain d around rest) :
      Plain d around (.mk (.element tag) attributes children :: rest)

/-! ## Marks of the byte order -/

section Marks

variable (d : Dialect)

/-- Whether the parser begins anew behind a node. -/
def Dialect.resumesBehind (n : Node) : Bool :=
  match n.label with
  | .text _ => false
  | .element tag => d.resumes tag

mutual
/-- Whether a text in or below a node has a mark in front that the parser passes over. -/
def markedNode : (anew : Bool) → Node → Bool
  | anew, .mk (.text content) _ _ => anew && content.toList.head? = some '\ufeff'
  | _, .mk (.element _) _ children => marked false children
/-- Whether a text among or below some nodes does. -/
def marked : (anew : Bool) → List Node → Bool
  | _, [] => false
  | anew, n :: rest => markedNode anew n || marked (d.resumesBehind n) rest
end

/-- A text without the mark in front of it, if there is more in it. -/
def unmarkedText (content : String) : List Node :=
  let kept := withoutMark content.toList
  if kept = [] then [] else [.text (String.ofList kept)]

mutual
/-- A node without the marks that the parser passes over, if there is anything left of it. -/
def unmarkedNode : (anew : Bool) → Node → List Node
  | anew, .mk (.text content) _ _ => if anew then unmarkedText content else [.text content]
  | _, .mk (.element tag) attributes children =>
      [.mk (.element tag) attributes (unmarked false children)]
/-- Some nodes without them. -/
def unmarked : (anew : Bool) → List Node → List Node
  | _, [] => []
  | anew, n :: rest => unmarkedNode anew n ++ unmarked (d.resumesBehind n) rest
end

end Marks

variable {d : Dialect} {around : List String}

theorem withoutMark_of_head? {cs : List Char} (h : cs.head? ≠ some '\ufeff') : withoutMark cs = cs := by
  rcases cs with _ | ⟨c, cs⟩
  · rfl
  · exact if_neg fun hc => h (congrArg some hc)

theorem unmarkedText_eq {content : String} (hnonempty : content ≠ "")
    (hmark : content.toList.head? ≠ some '\ufeff') : unmarkedText content = [.text content] := by
  rw [unmarkedText, withoutMark_of_head? hmark, if_neg (mt String.toList_eq_nil_iff.1 hnonempty),
    String.ofList_toList]

theorem PlainRaw.unmarked_eq {nodes : List Node} (h : PlainRaw nodes) :
    unmarked d false nodes = nodes := by
  cases h <;> rfl

/-- Nodes without marks stay as they are. -/
theorem Plain.unmarked_eq {nodes : List Node} (h : Plain d around nodes) {anew : Bool}
    (hmarked : marked d anew nodes = false) : unmarked d anew nodes = nodes := by
  induction h generalizing anew with
  | nil => rfl
  | @text _ rest content stays nonempty chars apart behind ih =>
    obtain ⟨hfirst, hrest⟩ := Bool.or_eq_false_iff.1 hmarked
    have htext : unmarkedNode d anew (.text content) = [.text content] := by
      cases anew with
      | false => rfl
      | true => exact unmarkedText_eq nonempty (of_decide_eq_false hfirst)
    rw [unmarked, htext, ih hrest]
    rfl
  | void stays kind start behind ih =>
    obtain ⟨-, hrest⟩ := Bool.or_eq_false_iff.1 hmarked
    rw [unmarked, unmarkedNode, ih hrest]
    rfl
  | raw stays kind start below behind ih =>
    obtain ⟨-, hrest⟩ := Bool.or_eq_false_iff.1 hmarked
    rw [unmarked, unmarkedNode, below.unmarked_eq, ih hrest]
    rfl
  | element stays kind start below behind ihbelow ihbehind =>
    obtain ⟨hbelow, hrest⟩ := Bool.or_eq_false_iff.1 hmarked
    rw [unmarked, unmarkedNode, ihbelow hbelow, ihbehind hrest]
    rfl

/-! ## What is written is spelled -/

/-- A character is written as what spells it. -/
theorem spelledChar_encodeChar {setting : Setting} {ending c : Char}
    (hself : encodeChar setting c = [c] → c ≠ ending) (hchar : c ≠ '\r' ∧ c ≠ '\x00') :
    SpelledChar ending (encodeChar setting c) c := by
  obtain ⟨heq, hamp⟩ | ⟨name, hname, heq⟩ := encodeChar_cases setting c
  · exact heq.symm ▸ .self ⟨hself heq, hamp, hchar.1, hchar.2⟩
  · exact heq.symm ▸ .named hname

/-- **A written text spells the text.** -/
theorem spelledText_encode {setting : Setting} {ending : Char}
    (hself : ∀ c, encodeChar setting c = [c] → c ≠ ending) {content : List Char}
    (hchars : ∀ c ∈ content, c ≠ '\r' ∧ c ≠ '\x00') :
    SpelledText ending (encode setting content) content := by
  induction content with
  | nil => exact .nil
  | cons c rest ih =>
    obtain ⟨hfirst, hrest⟩ := List.forall_mem_cons.1 hchars
    rw [encode, List.flatMap_cons]
    exact .cons (spelledChar_encodeChar (hself c) hfirst) (ih hrest)

theorem spelledAttributes_write {attributes : Assoc String}
    (h : ∀ entry ∈ attributes, PlainName entry.1 ∧ PlainText entry.2) :
    SpelledAttributes (attributes.flatMap writeAttribute) attributes := by
  have hquote : ∀ c, encodeChar .value c = [c] → c ≠ '"' := by
    rintro c hself rfl
    exact absurd hself (by decide)
  induction attributes with
  | nil => exact .nil
  | cons entry others ih =>
    obtain ⟨⟨hname, hvalue⟩, hothers⟩ := List.forall_mem_cons.1 h
    exact .cons (.mk (.inl rfl) hname (spelledText_encode hquote hvalue)) (ih hothers)

theorem PlainStart.spelled {tag : String} {attributes : Assoc String} (h : PlainStart tag attributes) :
    SpelledStart tag attributes (writeStart tag attributes) := by
  rw [writeStart, List.append_assoc]
  exact .mk h.tag (spelledAttributes_write h.entries) h.distinct

/-- What is in a script or a style is written as it is. -/
theorem PlainRaw.spelled {nodes : List Node} (h : PlainRaw nodes) :
    ∃ parts, SpelledRaw (writeNodes true nodes) parts ∧ Parsed.nodes parts = nodes := by
  cases h with
  | empty => exact ⟨[], .empty, rfl⟩
  | @text content nonempty chars closed =>
    have hwritten : writeNodes true [.text content] = content.toList := List.append_nil _
    refine ⟨[.text content], hwritten ▸ .text nonempty fun c hc => ⟨?_, chars c hc⟩, rfl⟩
    exact fun hangle => closed (hangle ▸ hc)

/-- No plain name is the tag that texts go by. -/
theorem element_eq {tag : String} (h : PlainName tag) (attributes : Assoc String)
    (children : List Node) :
    Node.element tag attributes children = .mk (.element tag) attributes children := by
  have htext : tag ≠ Node.textTag := fun heq => absurd h (heq ▸ by decide)
  rw [Node.element, if_neg htext]

/-- A character that is written in front is in front of the text, or begins a reference. -/
theorem head?_encode {cs : List Char} {c : Char} (h : (encode .text cs).head? = some c) (hc : c ≠ '&') :
    cs.head? = some c := by
  rcases cs with _ | ⟨d, cs⟩
  · cases h
  · rw [encode, List.flatMap_cons] at h
    obtain ⟨heq, -⟩ | ⟨name, -, heq⟩ := encodeChar_cases .text d
    · rwa [heq] at h
    · rw [heq] at h
      exact absurd (Option.some.inj h).symm hc

section Texts

variable {content : String} {rest : List Char} {parts : List Parsed} (stays : d.text around)
  (chars : PlainText content) (apart : Parsed.beginsWithText parts = false)
  (behind : Spelled d around false rest parts)

include stays chars apart behind

/-- A written text is spelled in front of what does not begin with one, as long as it has no mark that
the parser passes over. -/
theorem spelled_text {anew : Bool} (hnonempty : content ≠ "")
    (hmark : anew = true → content.toList.head? ≠ some '\ufeff') :
    Spelled d around anew (encode .text content.toList ++ rest) (.text content :: parts) := by
  have hangle : ∀ c, encodeChar .text c = [c] → c ≠ '<' := by
    rintro c hself rfl
    exact absurd hself (by decide)
  refine .text stays (spelledText_encode hangle chars) hnonempty (fun hanew hhead => ?_) apart behind
  exact hmark hanew (head?_encode hhead (by decide))

/-- A written text with a mark in front is spelled without it where the parser begins anew. -/
theorem spelled_unmarkedText (hmark : content.toList.head? = some '\ufeff') :
    ∃ parts', Spelled d around true (encode .text content.toList ++ rest) parts' ∧
      Parsed.nodes parts' = unmarkedText content ++ Parsed.nodes parts := by
  obtain ⟨cs, hcs⟩ := List.head?_eq_some_iff.1 hmark
  have hwritten : encode .text content.toList ++ rest = '\ufeff' :: (encode .text cs ++ rest) := by
    rw [hcs]
    rfl
  have hkept : withoutMark content.toList = cs := by rw [hcs, withoutMark, if_pos rfl]
  rw [hwritten, unmarkedText, hkept]
  by_cases hempty : cs = []
  · refine ⟨parts, .mark ?_, by rw [if_pos hempty, List.nil_append]⟩
    rwa [hempty]
  · have hchars : PlainText (String.ofList cs) := by
      rw [PlainText, String.toList_ofList]
      exact fun c hc => chars c (hcs ▸ .tail _ hc)
    have hne : String.ofList cs ≠ "" := by simpa using hempty
    have htext : Spelled d around false _ _ :=
      spelled_text stays hchars apart behind hne fun h => by cases h
    rw [String.toList_ofList] at htext
    exact ⟨_, .mark htext, by rw [if_neg hempty]; rfl⟩

end Texts

/-! ## Writing element by element -/

section Writing

variable {tag : String} (attributes : Assoc String) (children rest : List Node)

theorem writeNodes_void (kind : tag ∈ voidTags) :
    writeNodes false (.mk (.element tag) attributes [] :: rest) =
      writeStart tag attributes ++ writeNodes false rest := by
  rw [writeNodes, writeNode, if_pos kind, List.append_nil]

/-- What is not void has an end tag, and what is in it is raw in the elements that say so. -/
theorem writeNodes_element (kind : tag ∉ voidTags) :
    writeNodes false (.mk (.element tag) attributes children :: rest) =
      writeStart tag attributes ++ (writeNodes (tag ∈ rawTags) children ++ (writeEnd tag ++
        writeNodes false rest)) := by
  rw [writeNodes, writeNode, if_neg kind, List.append_assoc, List.append_assoc]

end Writing

/-- **What is written for plain nodes is a plain fragment**, and it spells the nodes without the marks that
the parser passes over. -/
theorem Plain.spelled {nodes : List Node} (h : Plain d around nodes) (anew : Bool) :
    ∃ parts, Spelled d around anew (writeNodes false nodes) parts ∧
      Parsed.nodes parts = unmarked d anew nodes ∧
      (beginsWithText nodes = false → Parsed.beginsWithText parts = false) := by
  induction h generalizing anew with
  | nil => exact ⟨[], .nil, rfl, fun _ => rfl⟩
  | @text _ rest content stays nonempty chars apart behind ih =>
    obtain ⟨parts, hspelled, hnodes, hapart⟩ := ih false
    have hwritten : writeNodes false (.text content :: rest) =
        encode .text content.toList ++ writeNodes false rest := rfl
    rw [hwritten]
    by_cases hmark : anew = true ∧ content.toList.head? = some '\ufeff'
    · obtain ⟨rfl, hmark⟩ := hmark
      obtain ⟨parts', hspelled', hnodes'⟩ :=
        spelled_unmarkedText stays chars (hapart apart) hspelled hmark
      exact ⟨parts', hspelled', hnodes'.trans (congrArg _ hnodes), fun h => by cases h⟩
    · refine ⟨.text content :: parts, spelled_text stays chars (hapart apart) hspelled nonempty
        fun hanew hhead => hmark ⟨hanew, hhead⟩, ?_, fun h => by cases h⟩
      have hsame : unmarkedNode d anew (.text content) = [.text content] := by
        cases anew with
        | false => rfl
        | true => exact unmarkedText_eq nonempty fun hhead => hmark ⟨rfl, hhead⟩
      rw [unmarked, hsame, Parsed.nodes, hnodes]
      rfl
  | @void _ tag attributes rest stays kind start behind ih =>
    obtain ⟨parts, hspelled, hnodes, -⟩ := ih (d.resumes tag)
    rw [writeNodes_void attributes rest kind]
    refine ⟨.element tag attributes [] :: parts, .void stays kind start.spelled hspelled, ?_, fun _ => rfl⟩
    rw [Parsed.nodes, Parsed.node?, hnodes, element_eq start.tag]
    rfl
  | @raw _ tag attributes children rest stays kind start below behind ih =>
    obtain ⟨parts, hspelled, hnodes, -⟩ := ih (d.resumes tag)
    obtain ⟨inner, hinner, hbelow⟩ := below.spelled
    have hvoid : tag ∉ voidTags := (by decide : ∀ tag ∈ rawTags, tag ∉ voidTags) tag kind
    rw [writeNodes_element attributes children rest hvoid, decide_eq_true kind]
    refine ⟨.element tag attributes inner :: parts, .raw stays kind start.spelled hinner hspelled, ?_,
      fun _ => rfl⟩
    rw [Parsed.nodes, Parsed.node?, hnodes, hbelow, element_eq start.tag, unmarked, unmarkedNode,
      below.unmarked_eq]
    rfl
  | @element _ tag attributes children rest stays kind start below behind ihbelow ihbehind =>
    obtain ⟨parts, hspelled, hnodes, -⟩ := ihbehind (d.resumes tag)
    obtain ⟨inner, hinner, hbelow, -⟩ := ihbelow false
    obtain ⟨hvoid, hraw⟩ := not_or.1 (mt List.mem_append.2 kind)
    rw [writeNodes_element attributes children rest hvoid, decide_eq_false hraw]
    refine ⟨.element tag attributes inner :: parts, .element stays kind start.spelled hinner hspelled, ?_,
      fun _ => rfl⟩
    rw [Parsed.nodes, Parsed.node?, hnodes, hbelow, element_eq start.tag]
    rfl

end Stencil.Html
