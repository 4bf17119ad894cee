import Stencil.Html.Reader
import Stencil.Proofs.Html.Tokens

/-!
# Proofs/Html/Parsing — a parser that reads plain fragments

    parts ◂──spell── characters ──tokens──▸ tokens ──Builder.read──▸ parts

The tokens of a plain fragment are those of its parts, and the builder puts the parts where the reader is
(`Builder.foldl_allTokens`): an end tag closes just the element of its start tag, which is the innermost one
still open.  So `parse` is one of the parsers that plain fragments can be left to (`parse_reads`), in every
dialect of elements that are read in no way of their own.
-/

namespace Stencil.Html

/-! ## Building trees -/

/-- A text behind no other stands on its own. -/
theorem addText_eq {children : List Parsed} (h : Parsed.beginsWithText children = false)
    (content : List Char) : addText content children = .text (String.ofList content) :: children := by
  rcases children with _ | ⟨_ | _ | _, rest⟩
  · rfl
  · cases h
  · rfl
  · rfl

namespace Builder

variable {b : Builder}

/-- The children where the reader is, the last one first. -/
def siblings (b : Builder) : List Parsed :=
  match b.stack with
  | [] => b.top
  | e :: _ => e.children

/-- Whether a text would join the one before it. -/
def behindText (b : Builder) : Bool := Parsed.beginsWithText b.siblings

/-- A line feed counts wherever it is read next. -/
def KeepsBreaks (b : Builder) : Prop := ∀ e ∈ b.stack.head?, e.tag ∉ leadingBreakTags

theorem siblings_change (f : List Parsed → List Parsed) :
    (b.change f).siblings = f b.siblings := by
  rcases b with ⟨_ | ⟨e, outer⟩, top⟩ <;> rfl

theorem change_congr {f g : List Parsed → List Parsed}
    (h : f b.siblings = g b.siblings) : b.change f = b.change g := by
  rcases b with ⟨_ | ⟨e, outer⟩, top⟩
  · exact congrArg (Builder.mk []) h
  · exact congrArg (fun children => Builder.mk (⟨e.tag, e.attributes, children⟩ :: outer) top) h

theorem change_change (f g : List Parsed → List Parsed) :
    (b.change f).change g = b.change fun children => g (f children) := by
  rcases b with ⟨_ | ⟨e, outer⟩, top⟩ <;> rfl

theorem change_id : b.change (fun children => children) = b := by
  rcases b with ⟨_ | ⟨e, outer⟩, top⟩ <;> rfl

theorem KeepsBreaks.change (h : b.KeepsBreaks) (f : List Parsed → List Parsed) :
    (b.change f).KeepsBreaks := by
  rcases b with ⟨_ | ⟨e, outer⟩, top⟩
  · exact h
  · intro changed hchanged
    obtain rfl := Option.some.inj hchanged
    exact h e rfl

theorem KeepsBreaks.dropsBreak (h : b.KeepsBreaks) : b.dropsBreak = false := by
  rcases b with ⟨_ | ⟨e, outer⟩, top⟩
  · rfl
  · exact (congrArg (e.children.isEmpty && ·) (decide_eq_false (h e rfl))).trans (Bool.and_false _)

/-- A text that joins no other is put where the reader is. -/
theorem read_text (h : b.KeepsBreaks) (hbehind : b.behindText = false) {content : String}
    (hnonempty : content ≠ "") : b.read (.text content.toList) = b.push (.text content) := by
  have hadd : b.change (addText content.toList) = b.push (.text content) :=
    change_congr ((addText_eq hbehind _).trans (by rw [String.ofList_toList]))
  rcases hcs : content.toList with _ | ⟨c, cs⟩
  · exact absurd (String.toList_eq_nil_iff.1 hcs) hnonempty
  · rw [read, text, h.dropsBreak, if_neg fun hand => Bool.false_ne_true hand.2, ← hcs, hadd]

/-- The builder behind a start tag. -/
def enter (b : Builder) (tag : String) (attributes : Assoc String) : Builder :=
  ⟨⟨tag, attributes, []⟩ :: b.stack, b.top⟩

/-- **An end tag closes the element of its start tag**, if what is between them has been put into it. -/
theorem read_element {tag : String} (h : tag ∉ childlessTags) {attributes : Assoc String}
    {tokens : List Token} {children : List Parsed}
    (hbelow : tokens.foldl read (b.enter tag attributes) =
      (b.enter tag attributes).change (children ++ ·)) :
    (.start tag attributes :: (tokens ++ [.stop tag])).foldl read b =
      b.push (OpenElement.closed ⟨tag, attributes, children⟩) := by
  have hopen : b.read (.start tag attributes) = b.enter tag attributes := if_neg h
  have hinside : (b.enter tag attributes).change (children ++ ·) =
      ⟨⟨tag, attributes, children⟩ :: b.stack, b.top⟩ := by
    show Builder.mk (⟨tag, attributes, children ++ []⟩ :: b.stack) b.top = _
    rw [List.append_nil]
  have hfind : (⟨tag, attributes, children⟩ :: b.stack).findIdx? (fun e => e.tag = tag) = some 0 := by
    rw [List.findIdx?_cons, if_pos (decide_eq_true rfl)]
  have hclose : Builder.read ⟨⟨tag, attributes, children⟩ :: b.stack, b.top⟩ (.stop tag) =
      b.push (OpenElement.closed ⟨tag, attributes, children⟩) := by
    rw [read, closeTo, hfind]
    rfl
  rw [List.foldl_cons, hopen, List.foldl_append, hbelow, hinside, List.foldl_cons, List.foldl_nil,
    hclose]

/-- **The tokens of an element put it where the reader is**, if those of its children put them where they
are read. -/
theorem foldl_tokensOf {tag : String} {attributes : Assoc String} {children : List Parsed}
    (hkind : tag ∉ childlessTags ++ leadingBreakTags ++ ["template"])
    (hbelow : ∀ b : Builder, b.KeepsBreaks → b.behindText = false →
      (allTokens children).foldl read b = b.change (children.reverse ++ ·)) :
    (tokensOf (.element tag attributes children)).foldl read b =
      b.push (.element tag attributes children) := by
  simp only [List.mem_append, not_or, List.mem_singleton] at hkind
  obtain ⟨⟨hchildless, hleading⟩, htemplate⟩ := hkind
  have hvoid : tag ∉ voidTags := fun hmem =>
    hchildless ((by decide : ∀ tag ∈ voidTags, tag ∈ childlessTags) tag hmem)
  have hbreaks : (b.enter tag attributes).KeepsBreaks := by
    intro e he
    obtain rfl := Option.some.inj he
    exact hleading
  rw [tokensOf, if_neg hvoid, read_element hchildless (hbelow _ hbreaks rfl), OpenElement.closed,
    if_neg htemplate, List.reverse_reverse]

/-- A part and then the others. -/
theorem foldl_allTokens_cons {part : Parsed} {rest : List Parsed}
    (hfirst : (tokensOf part).foldl read b = b.push part)
    (hrest : (allTokens rest).foldl read (b.push part) = (b.push part).change (rest.reverse ++ ·)) :
    (allTokens (part :: rest)).foldl read b = b.change ((part :: rest).reverse ++ ·) := by
  rw [allTokens, List.foldl_append, hfirst, hrest, push, change_change]
  refine change_congr ?_
  rw [List.reverse_cons, List.append_assoc, List.singleton_append]

/-- The one text that a script or a style may hold is put where the reader is. -/
theorem foldl_allTokens_raw {cs : List Char} {parts : List Parsed} (h : SpelledRaw cs parts)
    (hbreaks : b.KeepsBreaks) (hbehind : b.behindText = false) :
    (allTokens parts).foldl read b = b.change (parts.reverse ++ ·) := by
  cases h with
  | empty => exact change_id.symm
  | text nonempty => exact read_text hbreaks hbehind nonempty

/-- What is behind an element is behind no text. -/
theorem behindText_push_element (b : Builder) (tag : String) (attributes : Assoc String)
    (children : List Parsed) : (b.push (.element tag attributes children)).behindText = false := by
  rw [behindText, push, siblings_change]
  rfl

/-- **The tokens of a plain fragment put its parts where the reader is.** -/
theorem foldl_allTokens {d : Dialect} (hsimple : d.Simple) {around : List String} {anew : Bool}
    {cs : List Char} {parts : List Parsed} (h : Spelled d around anew cs parts) (hbreaks : b.KeepsBreaks)
    (hapart : Parsed.beginsWithText parts = true → b.behindText = false) :
    (allTokens parts).foldl read b = b.change (parts.reverse ++ ·) := by
  induction h generalizing b with
  | nil => exact change_id.symm
  | mark behind ih => exact ih hbreaks hapart
  | text stays spells nonempty unmarked apart behind ih =>
    refine foldl_allTokens_cons (read_text hbreaks (hapart rfl) nonempty)
      (ih (hbreaks.change _) fun hbegins => ?_)
    rw [apart] at hbegins
    cases hbegins
  | @void _ _ tag attributes _ _ _ stays kind start behind ih =>
    have hchildless := (by decide : ∀ tag ∈ voidTags, tag ∈ childlessTags) tag kind
    have hfirst : (tokensOf (.element tag attributes [])).foldl read b =
        b.push (.element tag attributes []) := by
      rw [tokensOf, if_pos kind, List.foldl_cons, read, if_pos hchildless]
      rfl
    exact foldl_allTokens_cons hfirst (ih (hbreaks.change _) fun _ => behindText_push_element ..)
  | @raw _ _ tag _ _ _ _ _ _ stays kind start below behind ih =>
    have hkind := (by decide : ∀ tag ∈ rawTags,
      tag ∉ childlessTags ++ leadingBreakTags ++ ["template"]) tag kind
    exact foldl_allTokens_cons
      (foldl_tokensOf hkind fun _ hbreaks hbehind => foldl_allTokens_raw below hbreaks hbehind)
      (ih (hbreaks.change _) fun _ => behindText_push_element ..)
  | @element _ _ tag _ _ _ _ _ _ stays kind start below behind ihbelow ihbehind =>
    have hkinds : ∀ tag ∈ childlessTags ++ leadingBreakTags ++ ["template"],
        tag ∈ voidTags ++ rawTags ∨ tag ∈ specialTags := by decide
    have hkind : tag ∉ childlessTags ++ leadingBreakTags ++ ["template"] := fun hmem =>
      (hkinds tag hmem).elim kind (hsimple.element _ _ stays)
    exact foldl_allTokens_cons
      (foldl_tokensOf hkind fun _ hbreaks hbehind => ihbelow hbreaks fun _ => hbehind)
      (ihbehind (hbreaks.change _) fun _ => behindText_push_element ..)

end Builder

/-! ## What happens to the characters before they are read -/

theorem unifyBreaks_eq {cs : List Char} (h : '\r' ∉ cs) : unifyBreaks cs = cs := by
  fun_induction unifyBreaks cs with
  | case1 => rfl
  | case2 => exact absurd (.head _) h
  | case3 c rest _ ih =>
    rw [ih fun hrest => h (.tail _ hrest), if_neg fun heq : c = '\r' => h (heq ▸ .head _)]

section Characters

variable {d : Dialect} {around : List String} {cs : List Char}

/-- Names hold no carriage return. -/
theorem PlainName.not_mem {name : String} (h : PlainName name) : '\r' ∉ name.toList := fun hmem =>
  absurd (h.2 _ hmem) (by decide)

theorem SpelledAttributes.not_mem {attributes : Assoc String} (h : SpelledAttributes cs attributes) :
    '\r' ∉ cs := by
  induction h with
  | nil => exact List.not_mem_nil
  | cons first behind ih =>
    cases first with
    | @mk quote _ _ text quotes plain spells =>
      have hend : isReferenceChar quote = false := by rcases quotes with rfl | rfl <;> rfl
      have hquote : '\r' ≠ quote := by rcases quotes with rfl | rfl <;> decide
      have hvalue : '\r' ∉ text := fun hmem => (spells.mem hend hmem).2.1 rfl
      simp [plain.not_mem, hquote, hvalue, ih]

theorem SpelledStart.not_mem {tag : String} {attributes : Assoc String}
    (h : SpelledStart tag attributes cs) : '\r' ∉ cs := by
  cases h with
  | mk plain entries => simp [plain.not_mem, entries.not_mem]

theorem PlainName.not_mem_writeEnd {tag : String} (h : PlainName tag) : '\r' ∉ writeEnd tag := by
  simp [writeEnd, h.not_mem]

/-- **There is no carriage return in a plain fragment.** -/
theorem Spelled.not_mem {anew : Bool} {parts : List Parsed} (h : Spelled d around anew cs parts) :
    '\r' ∉ cs := by
  induction h with
  | nil => exact List.not_mem_nil
  | mark behind ih => simp [ih]
  | @text _ _ text _ _ _ stays spells nonempty unmarked apart behind ih =>
    have htext : '\r' ∉ text := fun hmem => (spells.mem rfl hmem).2.1 rfl
    simp [htext, ih]
  | void stays kind start behind ih => simp [start.not_mem, ih]
  | @raw _ _ _ _ _ inner _ _ _ stays kind start below behind ih =>
    have hbelow : '\r' ∉ inner := fun hmem => (below.mem _ hmem).2.1 rfl
    simp [start.not_mem, hbelow, start.plain.not_mem_writeEnd, ih]
  | element stays kind start below behind ihbelow ihbehind =>
    simp [start.not_mem, ihbelow, start.plain.not_mem_writeEnd, ihbehind]

theorem withoutMark_cons {c : Char} (h : c ≠ '\ufeff') (rest : List Char) :
    withoutMark (c :: rest) = c :: rest := if_neg h

theorem SpelledStart.withoutMark_append {tag : String} {attributes : Assoc String}
    (h : SpelledStart tag attributes cs) (rest : List Char) : withoutMark (cs ++ rest) = cs ++ rest := by
  cases h with
  | mk => exact withoutMark_cons (by decide) _

/-- **Without the mark in front of it a plain fragment spells what it did.** -/
theorem Spelled.withoutMark {parts : List Parsed} (h : Spelled d around true cs parts) :
    Spelled d around false (withoutMark cs) parts := by
  cases h with
  | nil => exact .nil
  | mark behind => rwa [Html.withoutMark, if_pos rfl]
  | @text _ _ text rest _ content stays spells nonempty unmarked apart behind =>
    have hkept : Html.withoutMark (text ++ rest) = text ++ rest := by
      rcases text with _ | ⟨c, text⟩
      · exact absurd (spells.decode_eq .text).symm (mt String.toList_eq_nil_iff.1 nonempty)
      · exact withoutMark_cons (fun hc => unmarked rfl (congrArg some hc)) _
    rw [hkept]
    exact .text stays spells nonempty (fun h => by cases h) apart behind
  | void stays kind start behind =>
    rw [start.withoutMark_append]
    exact .void stays kind start behind
  | raw stays kind start below behind =>
    rw [start.withoutMark_append]
    exact .raw stays kind start below behind
  | element stays kind start below behind =>
    rw [start.withoutMark_append]
    exact .element stays kind start below behind

end Characters

/-- **Plain fragments are read as they are spelled.** -/
theorem parse_reads {d : Dialect} (hsimple : d.Simple) : parse.Reads d where
  spelled {cs parts} h := by
    have hspelled := h.withoutMark
    have htokens : tokens (withoutMark cs) = allTokens parts := by
      have hall := tokensFrom_spelled hsimple hspelled rfl endsText_nil
      rwa [List.append_nil, tokensFrom, State.finish, flush_nil, List.append_nil] at hall
    have hread := Builder.foldl_allTokens (b := ⟨[], []⟩) hsimple hspelled
      (fun _ he => absurd he (by simp)) fun _ => rfl
    rw [parse, String.toList_ofList, unifyBreaks_eq hspelled.not_mem, htokens, hread]
    show (parts.reverse ++ []).reverse = parts
    rw [List.append_nil, List.reverse_reverse]

end Stencil.Html
