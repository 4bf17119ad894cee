import Stencil.Html.Token
import Stencil.Proofs.Assoc
import Stencil.Proofs.Html.Decoding

/-!
# Proofs/Html/Tokens — the tokens of plain fragments

    parts ◂──spell── characters ──tokens──▸ tokens
      └──────────────allTokens─────────────────▸┘

The reader stops just where a part ends: behind a start tag, behind an end tag and in front of the next piece
of markup.  A lemma for each part of a tag says how far its characters take the reader; `tokensFrom_spelled`
puts them together along a fragment.  All of this holds as long as no element is of a kind that is read in a
way of its own (`Dialect.Simple`).
-/

namespace Stencil.Html

/-! ## The characters of names -/

section Names

variable {c : Char} (h : isNameChar c = true)

include h

theorem ne_of_isNameChar {d : Char} (hd : isNameChar d = false) : c ≠ d := by
  rintro rfl
  rw [h] at hd
  cases hd

theorem toLower_of_isNameChar : c.toLower = c := by
  unfold Char.toLower
  split
  · next hupper =>
    have hlow : 65 ≤ c.toNat := UInt32.le_iff_toNat_le.1 hupper.1
    have hhigh : c.toNat ≤ 90 := UInt32.le_iff_toNat_le.1 hupper.2
    simp only [isNameChar, Bool.or_eq_true, decide_eq_true_eq] at h
    obtain ((h | h) | rfl) | h := h
    · have hsmall : 97 ≤ c.toNat :=
        UInt32.le_iff_toNat_le.1 (of_decide_eq_true (Bool.and_eq_true_iff.1 h).1)
      omega
    · have hdigit : c.toNat ≤ 57 :=
        UInt32.le_iff_toNat_le.1 (of_decide_eq_true (Bool.and_eq_true_iff.1 h).2)
      omega
    · exact absurd hlow (by decide)
    · omega
  · rfl

theorem endsTagName_of_isNameChar : endsTagName c = false := by
  simp [endsTagName, isSpace, ne_of_isNameChar h (d := ' ') rfl, ne_of_isNameChar h (d := '\n') rfl,
    ne_of_isNameChar h (d := '\t') rfl, ne_of_isNameChar h (d := '\r') rfl,
    ne_of_isNameChar h (d := '\x0c') rfl, ne_of_isNameChar h (d := '/') rfl,
    ne_of_isNameChar h (d := '>') rfl]

theorem isSpace_of_isNameChar : isSpace c = false :=
  (Bool.or_eq_false_iff.1 (Bool.or_eq_false_iff.1 (endsTagName_of_isNameChar h)).1).1

theorem shown_of_isNameChar : shown c = c := if_neg (ne_of_isNameChar h rfl)

end Names

/-- A small letter may begin a name. -/
theorem isAlpha_of_isLower {c : Char} (h : c.isLower = true) : c.isAlpha = true :=
  Bool.or_eq_true_iff.2 (.inr h)

/-- A plain name is a letter and then characters of names. -/
theorem PlainName.eq_cons {name : String} (h : PlainName name) :
    ∃ c cs, name.toList = c :: cs ∧ c.isAlpha = true ∧ ∀ d ∈ c :: cs, isNameChar d = true := by
  obtain ⟨hfirst, hall⟩ := h
  rcases hname : name.toList with _ | ⟨c, cs⟩
  · rw [hname] at hfirst
    cases hfirst
  · rw [hname] at hfirst hall
    exact ⟨c, cs, rfl, isAlpha_of_isLower hfirst, hall⟩

theorem PlainName.lower_eq {name : String} (h : PlainName name) :
    lower name.toList = name.toList :=
  (List.map_congr_left fun c hc => toLower_of_isNameChar (h.2 c hc)).trans (List.map_id _)

/-! ## Characters that are read one like the other -/

/-- A run of characters that are put in front of what has been read. -/
theorem tokensFrom_run (state : List Char → State) {cs : List Char}
    (h : ∀ c ∈ cs, ∀ read, step (state read) c = (state (c :: read), [])) (read rest : List Char) :
    tokensFrom (state read) (cs ++ rest) = tokensFrom (state (cs.reverse ++ read)) rest := by
  induction cs generalizing read with
  | nil => rfl
  | cons c cs ih =>
    rw [List.cons_append, tokensFrom, h c (.head _), List.nil_append,
      ih fun d hd => h d (.tail _ hd), List.reverse_cons, List.append_assoc, List.singleton_append]

/-! ## Texts -/

@[simp] theorem flush_nil : flush [] = [] := rfl

/-- What is written for a text is read up to its end. -/
theorem tokensFrom_text {cs content : List Char} (h : SpelledText '<' cs content)
    (rest : List Char) :
    tokensFrom (.content []) (cs ++ rest) = tokensFrom (.content cs.reverse) rest := by
  refine (tokensFrom_run .content (fun c hc read => ?_) [] rest).trans (by rw [List.append_nil])
  obtain ⟨hangle, -, hnull⟩ := h.mem rfl hc
  rw [step, if_neg hangle, if_neg hnull]

theorem SpelledText.flush_eq {cs content : List Char} (h : SpelledText '<' cs content)
    (hnonempty : content ≠ []) : flush cs.reverse = [.text content] := by
  rw [flush, List.reverse_reverse, h.decode_eq, textToken, if_neg hnonempty]

/-! ## Tags -/

/-- The name of a tag is read up to its end. -/
theorem tokensFrom_tagName {cs : List Char} (h : ∀ c ∈ cs, isNameChar c = true) (stops : Bool)
    (read rest : List Char) :
    tokensFrom (.tagName stops read) (cs ++ rest) =
      tokensFrom (.tagName stops (cs.reverse ++ read)) rest := by
  refine tokensFrom_run (.tagName stops) (fun c hc read => ?_) read rest
  rw [step, endsTagName_of_isNameChar (h c hc), if_neg Bool.false_ne_true,
    shown_of_isNameChar (h c hc)]

/-- Behind its name a tag goes on as between its attributes. -/
theorem tokensFrom_tagName_end {c : Char} (h : endsTagName c = true) (stops : Bool)
    (read rest : List Char) :
    tokensFrom (.tagName stops read) (c :: rest) =
      tokensFrom (.between ⟨stops, read.reverse, []⟩) (c :: rest) := by
  rw [tokensFrom, tokensFrom, step, step, if_pos h, if_pos h]

/-- The name of an attribute is read up to its end. -/
theorem tokensFrom_attributeName (tag : OpenTag) {name : String} (h : PlainName name)
    (rest : List Char) :
    tokensFrom (.between tag) (name.toList ++ '=' :: rest) =
      tokensFrom (.valueStart tag name.toList.reverse) rest := by
  obtain ⟨c, cs, heq, -, hchars⟩ := h.eq_cons
  have hc := hchars c (.head _)
  have hfirst : step (.between tag) c = (.attributeName tag [c], []) := by
    rw [step, endsTagName_of_isNameChar hc, if_neg Bool.false_ne_true, shown_of_isNameChar hc]
  have hrun : ∀ d ∈ cs, ∀ read,
      step (.attributeName tag read) d = (.attributeName tag (d :: read), []) := by
    intro d hd read
    have hd := hchars d (.tail _ hd)
    rw [step, if_neg (ne_of_isNameChar hd rfl), isSpace_of_isNameChar hd,
      if_neg Bool.false_ne_true, endsTagName_of_isNameChar hd, if_neg Bool.false_ne_true,
      shown_of_isNameChar hd]
  rw [heq, List.cons_append, tokensFrom, hfirst, List.nil_append,
    tokensFrom_run (.attributeName tag) hrun, tokensFrom, step, if_pos rfl, List.nil_append,
    List.reverse_cons]

/-- What is written for a value is read up to the quote that ends it. -/
theorem tokensFrom_value {quote : Char} (hquote : quote = '"' ∨ quote = '\x27')
    {cs value : List Char} (h : SpelledText quote cs value) (tag : OpenTag) (name rest : List Char) :
    tokensFrom (.valueStart tag name) (quote :: (cs ++ quote :: rest)) =
      tokensFrom (.between (tag.add name cs.reverse)) rest := by
  have hend : isReferenceChar quote = false := by rcases hquote with rfl | rfl <;> rfl
  have hrun : ∀ c ∈ cs, ∀ read,
      step (.quoted quote tag name read) c = (.quoted quote tag name (c :: read), []) := by
    intro c hc read
    obtain ⟨hne, -, hnull⟩ := h.mem hend hc
    rw [step, if_neg hne, shown, if_neg hnull]
  rw [tokensFrom, step, if_pos hquote, List.nil_append,
    tokensFrom_run (.quoted quote tag name) hrun, tokensFrom, step, if_pos rfl,
    List.nil_append, List.append_nil]

/-- A tag with one more attribute. -/
def OpenTag.push (tag : OpenTag) (entry : String × String) : OpenTag :=
  { tag with attributes := tag.attributes ++ [entry] }

/-- An attribute that is new to a tag is added to it with the value that was spelled. -/
theorem OpenTag.add_spelled {tag : OpenTag} {name value : String} {quote : Char} {cs : List Char}
    (h : PlainName name) (hvalue : SpelledText quote cs value.toList)
    (hnew : name ∉ tag.attributes.names) :
    tag.add name.toList.reverse cs.reverse = tag.push (name, value) := by
  rw [add, List.reverse_reverse, List.reverse_reverse, h.lower_eq, hvalue.decode_eq,
    String.ofList_toList, String.ofList_toList, if_neg hnew]
  rfl

/-- **An attribute is read up to its end.** -/
theorem tokensFrom_attribute {cs : List Char} {entry : String × String}
    (h : SpelledAttribute cs entry) {tag : OpenTag} (hnew : entry.1 ∉ tag.attributes.names)
    (rest : List Char) :
    tokensFrom (.between tag) (cs ++ rest) = tokensFrom (.between (tag.push entry)) rest := by
  cases h with
  | @mk quote name value cs quotes plain spells =>
    have hsplit : ' ' :: (name.toList ++ '=' :: quote :: (cs ++ [quote])) ++ rest =
        ' ' :: (name.toList ++ '=' :: (quote :: (cs ++ quote :: rest))) := by simp
    have hspace : step (.between tag) ' ' = (.between tag, []) := rfl
    rw [hsplit, tokensFrom, hspace, List.nil_append, tokensFrom_attributeName tag plain,
      tokensFrom_value quotes spells, OpenTag.add_spelled plain spells hnew]

/-- **The attributes of a tag are read up to the end of the last.** -/
theorem tokensFrom_attributes {cs : List Char} {attributes : Assoc String}
    (h : SpelledAttributes cs attributes) (tag : OpenTag)
    (hdistinct : (Assoc.names (tag.attributes ++ attributes)).Nodup) (rest : List Char) :
    tokensFrom (.between tag) (cs ++ rest) =
      tokensFrom (.between { tag with attributes := tag.attributes ++ attributes }) rest := by
  induction h generalizing tag with
  | nil => rw [List.nil_append, List.append_nil]
  | @cons _ _ entry others first behind ih =>
    have hnew : entry.1 ∉ tag.attributes.names := fun hmem => by
      rw [Assoc.names, List.map_append, List.map_cons] at hdistinct
      exact (List.nodup_append.1 hdistinct).2.2 _ hmem _ (.head _) rfl
    have hpush : tag.attributes ++ entry :: others = (tag.push entry).attributes ++ others :=
      List.append_cons ..
    rw [List.append_assoc, tokensFrom_attribute first hnew]
    rw [hpush] at hdistinct ⊢
    exact ih _ hdistinct

/-- **The name of a tag is read up to its end**, behind whatever brought the reader to it. -/
theorem tokensFrom_name {state : State} {stops : Bool} {text : List Char}
    (hstate : ∀ c, c.isAlpha = true → step state c = (.tagName stops [c], flush text))
    {tag : String} (h : PlainName tag) {rest : List Char}
    (hends : rest.head?.any endsTagName = true) :
    tokensFrom state (tag.toList ++ rest) =
      flush text ++ tokensFrom (.between ⟨stops, tag.toList, []⟩) rest := by
  obtain ⟨c, cs, heq, halpha, hchars⟩ := h.eq_cons
  rcases rest with _ | ⟨d, rest⟩
  · cases hends
  · rw [heq, List.cons_append, tokensFrom, hstate c halpha,
      tokensFrom_tagName fun d hd => hchars d (.tail _ hd), tokensFrom_tagName_end hends,
      List.reverse_append, List.reverse_reverse]
    rfl

/-- The characters behind the name of a start tag end it. -/
theorem SpelledAttributes.endsTagName {cs : List Char} {attributes : Assoc String}
    (h : SpelledAttributes cs attributes) (rest : List Char) :
    (cs ++ '>' :: rest).head?.any endsTagName = true := by
  cases h with
  | nil => rfl
  | cons first => cases first; rfl

/-- Where the reader is behind a start tag. -/
def behindStart (tag : String) : State :=
  match contentOf tag with
  | .ordinary => .content []
  | content => .enclosed content tag.toList []

/-- **A start tag is read up to its end.** -/
theorem tokensFrom_start {tag : String} {attributes : Assoc String} {cs : List Char}
    (h : SpelledStart tag attributes cs) (text rest : List Char) :
    tokensFrom (.content text) (cs ++ rest) =
      flush text ++ .start tag attributes :: tokensFrom (behindStart tag) rest := by
  cases h with
  | @mk cs plain entries distinct =>
    have hangle : step (.content text) '<' = (.angle text, []) := rfl
    have hletter : ∀ c, c.isAlpha = true → step (.angle text) c = (.tagName false [c], flush text) :=
      fun c hc => by rw [step, if_pos hc]
    have hbracket : step (.between ⟨false, tag.toList, attributes⟩) '>' =
        (behindStart tag, [.start tag attributes]) := by
      show (_, _) = _
      rw [plain.lower_eq, String.ofList_toList]
      rfl
    have hsplit : '<' :: (tag.toList ++ (cs ++ ['>'])) ++ rest =
        '<' :: (tag.toList ++ (cs ++ '>' :: rest)) := by simp
    rw [hsplit, tokensFrom, hangle, List.nil_append,
      tokensFrom_name hletter plain (entries.endsTagName rest),
      tokensFrom_attributes entries ⟨false, tag.toList, []⟩ distinct, List.nil_append, tokensFrom, hbracket,
      List.singleton_append]

/-- **An end tag is read up to its end.** -/
theorem tokensFrom_end {tag : String} (h : PlainName tag) (text rest : List Char) :
    tokensFrom (.content text) (writeEnd tag ++ rest) =
      flush text ++ .stop tag :: tokensFrom (.content []) rest := by
  have hangle : step (.content text) '<' = (.angle text, []) := rfl
  have hslash : step (.angle text) '/' = (.slash text, []) := rfl
  have hletter : ∀ c, c.isAlpha = true → step (.slash text) c = (.tagName true [c], flush text) :=
    fun c hc => by rw [step, if_pos hc]
  have hbracket : step (.between ⟨true, tag.toList, []⟩) '>' = (.content [], [.stop tag]) := by
    show (_, _) = _
    rw [h.lower_eq, String.ofList_toList]
  have hwritten : writeEnd tag ++ rest = '<' :: '/' :: (tag.toList ++ '>' :: rest) := by
    simp [writeEnd]
  rw [hwritten, tokensFrom, hangle, List.nil_append, tokensFrom, hslash, List.nil_append,
    tokensFrom_name hletter h rfl, tokensFrom, hbracket, List.singleton_append]

/-! ## Scripts and styles -/

/-- The characters that a text ends with are in it, in either case. -/
theorem mem_of_endsWith {text ending : List Char} (h : endsWith text ending = true) {c : Char}
    (hc : c ∈ ending) : ∃ d ∈ text, d.toLower = c := by
  have heq : lower (text.take ending.length) = ending.reverse := of_decide_eq_true h
  have hmem : c ∈ lower (text.take ending.length) := heq ▸ List.mem_reverse.2 hc
  obtain ⟨d, hd, hlower⟩ := List.mem_map.1 hmem
  exact ⟨d, List.mem_of_mem_take hd, hlower⟩

/-- Only an angle bracket is one in lower case. -/
theorem eq_angle_of_toLower {c : Char} (h : c.toLower = '<') : c = '<' := by
  unfold Char.toLower at h
  split at h
  · next hupper =>
    have hlow : 65 ≤ c.val.toNat := UInt32.le_iff_toNat_le.1 hupper.1
    have hhigh : c.val.toNat ≤ 90 := UInt32.le_iff_toNat_le.1 hupper.2
    have hsum : (c.val.toNat + 32) % 2 ^ 32 = 60 :=
      (UInt32.toNat_add ..).symm.trans (congrArg Char.toNat h)
    omega
  · exact h

theorem endsWith_eq_false {text ending : List Char} (htext : '<' ∉ text) (hending : '<' ∈ ending) :
    endsWith text ending = false :=
  Bool.eq_false_iff.2 fun h =>
    have ⟨_, hd, hlower⟩ := mem_of_endsWith h hending
    htext (eq_angle_of_toLower hlower ▸ hd)

/-- What is in a script or a style is read up to its end. -/
theorem tokensFrom_enclosed {content : Content} (hcontent : content ∈ [.raw, .script .outside])
    (tag : List Char) {cs text : List Char} (hcs : ∀ c ∈ cs, c ≠ '<' ∧ c ≠ '\x00')
    (htext : '<' ∉ text) (rest : List Char) :
    tokensFrom (.enclosed content tag text) (cs ++ rest) =
      tokensFrom (.enclosed content tag (cs.reverse ++ text)) rest := by
  induction cs generalizing text with
  | nil => rfl
  | cons c cs ih =>
    obtain ⟨⟨hangle, hnull⟩, hcs⟩ := List.forall_mem_cons.1 hcs
    have hlonger : '<' ∉ c :: text := fun h => (List.mem_cons.1 h).elim (hangle ·.symm) htext
    have hstays : stopsAt content tag text c = false := by
      rw [stopsAt, endsWith_eq_false htext (.head _), Bool.and_false]
    have hnext : content.next text c = content := by
      simp only [List.mem_cons, List.not_mem_nil, or_false] at hcontent
      obtain rfl | rfl := hcontent
      · rfl
      · rw [Content.next, ScriptPlace.next, endsWith_eq_false hlonger (by decide),
          if_neg Bool.false_ne_true]
    rw [List.cons_append, tokensFrom, step, hstays, if_neg Bool.false_ne_true, hnext, shown,
      if_neg hnull, List.nil_append, ih hcs hlonger, List.reverse_cons, List.append_assoc,
      List.singleton_append]

/-- The end tag of a script or a style is read as one: none of its characters but the last ends the
content. -/
theorem tokensFrom_enclosed_end {tag : String} (h : tag ∈ rawTags) (text rest : List Char) :
    tokensFrom (.enclosed (contentOf tag) tag.toList text) (writeEnd tag ++ rest) =
      textToken text.reverse ++ [.stop tag] ++ tokensFrom (.content []) rest := by
  simp only [rawTags, List.mem_cons, List.not_mem_nil, or_false] at h
  obtain rfl | rfl := h <;> rfl

/-- **What is in a script or a style is one text.** -/
theorem tokensFrom_raw {tag : String} (h : tag ∈ rawTags) {cs : List Char}
    (hcs : ∀ c ∈ cs, c ≠ '<' ∧ c ≠ '\x00') (rest : List Char) :
    tokensFrom (behindStart tag) (cs ++ (writeEnd tag ++ rest)) =
      textToken cs ++ .stop tag :: tokensFrom (.content []) rest := by
  have hkind : behindStart tag = .enclosed (contentOf tag) tag.toList [] ∧
      contentOf tag ∈ [.raw, .script .outside] := by
    simp only [rawTags, List.mem_cons, List.not_mem_nil, or_false] at h
    obtain rfl | rfl := h <;> decide
  rw [hkind.1, tokensFrom_enclosed hkind.2 _ hcs List.not_mem_nil, tokensFrom_enclosed_end h,
    List.append_nil, List.reverse_reverse, List.append_assoc, List.singleton_append]

/-! ## Fragments -/

mutual
/-- The tokens that a part should be read as. -/
def tokensOf : Parsed → List Token
  | .text content => [.text content.toList]
  | .element tag attributes children =>
      .start tag attributes :: if tag ∈ voidTags then [] else allTokens children ++ [.stop tag]
  | .remark => [.comment]
/-- The tokens that parts should be read as, one after another. -/
def allTokens : List Parsed → List Token
  | [] => []
  | part :: rest => tokensOf part ++ allTokens rest
end

/-- The tags of elements that are read in a way of their own, other than void ones, scripts and styles: what
is in them is no markup or is no part of the tree, a line feed in front of it does not count, or there is
nothing in them though they are written with an end tag. -/
def specialTags : List String :=
  ["title", "textarea", "xmp", "iframe", "noembed", "noframes", "noscript", "plaintext", "pre",
   "listing", "template", "basefont", "bgsound", "keygen", "param"]

/-- A dialect of elements that are not read in a way of their own, in which only the beginning of a fragment
is read anew. -/
structure Dialect.Simple (d : Dialect) : Prop where
  element : ∀ around tag, d.element around tag → tag ∉ specialTags
  resumes : ∀ tag, d.resumes tag = false

/-- Whether a text that has been read ends in front of what follows. -/
def EndsText (rest : List Char) : Prop :=
  ∀ text, tokensFrom (.content text) rest = flush text ++ tokensFrom (.content []) rest

theorem endsText_nil : EndsText [] := fun text => (List.append_nil (flush text)).symm

theorem endsText_end {tag : String} (h : PlainName tag) (rest : List Char) :
    EndsText (writeEnd tag ++ rest) := fun text => by
  rw [tokensFrom_end h, tokensFrom_end h, flush_nil, List.nil_append]

theorem SpelledStart.endsText {tag : String} {attributes : Assoc String} {cs : List Char}
    (h : SpelledStart tag attributes cs) (rest : List Char) : EndsText (cs ++ rest) := fun text => by
  rw [tokensFrom_start h, tokensFrom_start h, flush_nil, List.nil_append]

/-- The name of a start tag is plain. -/
theorem SpelledStart.plain {tag : String} {attributes : Assoc String} {cs : List Char}
    (h : SpelledStart tag attributes cs) : PlainName tag := by
  cases h with
  | mk plain => exact plain

variable {d : Dialect} {around : List String} {cs : List Char} {parts : List Parsed}

/-- A text in front of parts that do not begin with one ends there. -/
theorem Spelled.endsText (h : Spelled d around false cs parts)
    (hapart : Parsed.beginsWithText parts = false) {rest : List Char} (hrest : EndsText rest) :
    EndsText (cs ++ rest) := by
  cases h with
  | nil => exact hrest
  | text => cases hapart
  | void _ _ start | raw _ _ start | element _ _ start =>
    rw [List.append_assoc]
    exact start.endsText _

/-- Void elements and the elements that are read in no way of their own hold markup, if anything. -/
theorem behindStart_of_mem_voidTags {tag : String} (h : tag ∈ voidTags) :
    behindStart tag = .content [] := by
  have hall : ∀ tag ∈ voidTags, behindStart tag = .content [] := by decide
  exact hall tag h

theorem behindStart_of_not_mem {tag : String} (h : tag ∉ voidTags ++ rawTags ++ specialTags) :
    behindStart tag = .content [] := by
  have hnot : ∀ tags : List String, (∀ other ∈ tags, other ∈ voidTags ++ rawTags ++ specialTags) →
      tag ∉ tags := fun tags hall hmem => h (hall tag hmem)
  have hne : ∀ other ∈ voidTags ++ rawTags ++ specialTags, tag ≠ other := fun other hother heq =>
    h (heq ▸ hother)
  rw [behindStart, contentOf, if_neg (hnot _ (by decide)), if_neg (hnot _ (by decide)),
    if_neg (hne "script" (by decide)), if_neg (hne "plaintext" (by decide))]

/-- The token of what is in a script or a style is what is written. -/
theorem SpelledRaw.allTokens_eq (h : SpelledRaw cs parts) : allTokens parts = textToken cs := by
  cases h with
  | empty => rfl
  | text nonempty =>
    rw [textToken, if_neg (mt String.toList_eq_nil_iff.1 nonempty)]
    rfl

theorem SpelledRaw.mem (h : SpelledRaw cs parts) : ∀ c ∈ cs, c ≠ '<' ∧ c ≠ '\r' ∧ c ≠ '\x00' := by
  cases h with
  | empty => exact fun _ hc => absurd hc List.not_mem_nil
  | text _ chars => exact chars

/-- **The tokens of a plain fragment are those of its parts**, and the reader is where the fragment ends. -/
theorem tokensFrom_spelled (hsimple : d.Simple) {anew : Bool} (h : Spelled d around anew cs parts)
    (hanew : anew = false) {rest : List Char} (hrest : EndsText rest) :
    tokensFrom (.content []) (cs ++ rest) = allTokens parts ++ tokensFrom (.content []) rest := by
  induction h generalizing rest with
  | nil => rfl
  | mark => cases hanew
  | text stays spells nonempty unmarked apart behind ih =>
    rw [List.append_assoc, tokensFrom_text spells, behind.endsText apart hrest,
      spells.flush_eq (mt String.toList_eq_nil_iff.1 nonempty), ih rfl hrest]
    rfl
  | void stays kind start behind ih =>
    rw [List.append_assoc, tokensFrom_start start, behindStart_of_mem_voidTags kind,
      ih (hsimple.resumes _) hrest, allTokens, tokensOf, if_pos kind]
    rfl
  | @raw _ _ tag _ _ _ _ _ _ stays kind start below behind ih =>
    have hvoid : tag ∉ voidTags := (by decide : ∀ tag ∈ rawTags, tag ∉ voidTags) tag kind
    have hchars := fun c hc => And.imp_right And.right (below.mem c hc)
    rw [List.append_assoc, tokensFrom_start start, List.append_assoc, List.append_assoc,
      tokensFrom_raw kind hchars, ih (hsimple.resumes _) hrest, allTokens, tokensOf, if_neg hvoid,
      below.allTokens_eq]
    simp
  | element stays kind start below behind ihbelow ihbehind =>
    have hvoid := fun h => kind (List.mem_append_left rawTags h)
    have hordinary := fun h => (List.mem_append.1 h).elim kind (hsimple.element _ _ stays)
    rw [List.append_assoc, tokensFrom_start start, behindStart_of_not_mem hordinary,
      List.append_assoc, List.append_assoc, ihbelow rfl (endsText_end start.plain _),
      tokensFrom_end start.plain, ihbehind (hsimple.resumes _) hrest, allTokens, tokensOf, if_neg hvoid]
    simp

end Stencil.Html
