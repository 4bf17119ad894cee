import Stencil.Proofs.Except
import Stencil.Proofs.Interpolation

/-!
# Proofs/Interpolation/Splicing — a text with the taken matches replaced

    raw ──matches──▸ skeleton, offsets ──scope──▸ raw with the taken matches replaced

For matches in order, whatever has found them: the skeleton is what no taken match covers, each hole has
its offset where its match began, counted in the skeleton's own bytes, and filling the holes replaces the
matches in the text (`Spliced`).
-/

namespace Stencil

open Pattern (Match InOrder)
open Text (between)

/-! ## The taken matches of a text -/

namespace Pattern

/-- The matches whose group took part, each with the path in its group. -/
def taken (cs : List Char) (found : List Match) : List (Match × Path) :=
  found.filterMap fun m => (m.captured? cs).map fun expression => (m, ⟨String.ofList expression⟩)

/-- The matches that are taken are in order as all of them are. -/
theorem InOrder.taken {length : Nat} (cs : List Char) : ∀ {place : Nat} {found : List Match},
    InOrder length place found → InOrder length place ((taken cs found).map Prod.fst)
  | _, [], h => h
  | _, m :: rest, ⟨hplace, hspan, hrest⟩ => by
    rw [Pattern.taken, List.filterMap_cons]
    rcases m.captured? cs with _ | expression
    · exact (InOrder.taken cs hrest).of_le (Nat.le_trans hplace hspan)
    · exact ⟨hplace, hspan, InOrder.taken cs hrest⟩

/-- Whether a place belongs to one of these matches. -/
def covers (holes : List (Match × Path)) (place : Nat) : Bool :=
  holes.any fun hole => hole.1.start ≤ place && place < hole.1.stop

/-- **The characters that no match covers**, of a text that begins at `place`. -/
def kept (holes : List (Match × Path)) (place : Nat) (cs : List Char) : List Char :=
  ((cs.zipIdx place).filter fun x => !covers holes x.2).map Prod.fst

/-- **A text with matches replaced** by the texts that go with them, from a place on. -/
def replaced (cs : List Char) : (place : Nat) → List (Match × String) → String
  | place, [] => String.ofList (cs.drop place)
  | place, (m, text) :: rest =>
      String.ofList (between cs place m.start) ++ text ++ replaced cs m.stop rest

/-! ## What no match covers -/

/-- What is kept of a text is kept part by part. -/
theorem kept_append (holes : List (Match × Path)) (place : Nat) (xs ys : List Char) :
    kept holes place (xs ++ ys) = kept holes place xs ++ kept holes (place + xs.length) ys := by
  rw [kept, List.zipIdx_append, List.filter_append, List.map_append]
  rfl

/-- Where no match is, everything is kept. -/
theorem kept_of_free {holes : List (Match × Path)} {place : Nat} {cs : List Char}
    (h : ∀ i, i < place + cs.length → covers holes i = false) : kept holes place cs = cs := by
  have hall : (cs.zipIdx place).filter (fun x => !covers holes x.2) = cs.zipIdx place := by
    refine List.filter_eq_self.2 fun x hx => ?_
    rw [h x.2 (Nat.add_comm cs.length place ▸ List.snd_lt_of_mem_zipIdx hx), Bool.not_false]
  rw [kept, hall, List.zipIdx_map_fst]

/-- Of a match nothing is kept. -/
theorem kept_of_covered {holes : List (Match × Path)} {place : Nat} {cs : List Char}
    (h : ∀ i, place ≤ i → i < place + cs.length → covers holes i = true) :
    kept holes place cs = [] := by
  refine List.map_eq_nil_iff.2 (List.filter_eq_nil_iff.2 fun x hx => ?_)
  rw [h x.2 (List.le_snd_of_mem_zipIdx hx) (Nat.add_comm cs.length place ▸ List.snd_lt_of_mem_zipIdx hx)]
  exact Bool.false_ne_true

theorem kept_congr {holes others : List (Match × Path)} {place : Nat}
    (h : ∀ i, place ≤ i → covers holes i = covers others i) (cs : List Char) :
    kept holes place cs = kept others place cs :=
  congrArg (List.map Prod.fst) (List.filter_congr fun x hx => by
    rw [h x.2 (List.le_snd_of_mem_zipIdx hx)])

/-- In front of all matches no place is covered. -/
theorem covers_of_lt {length place : Nat} {holes : List (Match × Path)}
    (h : InOrder length place (holes.map Prod.fst)) {i : Nat} (hi : i < place) :
    covers holes i = false := by
  refine List.any_eq_false.2 fun hole hhole => ?_
  have hplace := (h.of_mem (List.mem_map_of_mem hhole)).1
  simp only [Bool.and_eq_true, decide_eq_true_eq]
  omega

theorem covers_cons (hole : Match × Path) (rest : List (Match × Path)) (i : Nat) :
    covers (hole :: rest) i = (hole.1.start ≤ i && i < hole.1.stop || covers rest i) := rfl

section First

variable {cs : List Char} {place : Nat} {hole : Match × Path} {rest : List (Match × Path)}

/-- What is in front of the first match is kept. -/
theorem kept_before (h : InOrder cs.length place ((hole :: rest).map Prod.fst)) :
    kept (hole :: rest) place (between cs place hole.1.start) = between cs place hole.1.start := by
  obtain ⟨hplace, hspan, hrest⟩ := h
  have hlength := hrest.le_length
  refine kept_of_free fun i hi => ?_
  rw [Text.length_between (by omega)] at hi
  rw [covers_cons, covers_of_lt hrest (by omega), Bool.or_false, Bool.and_eq_false_iff]
  exact .inl (decide_eq_false (by omega))

/-- **Up to any place behind the first match**: what is in front of it, and what is kept behind it. -/
theorem kept_between (h : InOrder cs.length place ((hole :: rest).map Prod.fst)) {b : Nat}
    (hstop : hole.1.stop ≤ b) (hb : b ≤ cs.length) :
    kept (hole :: rest) place (between cs place b) =
      between cs place hole.1.start ++ kept rest hole.1.stop (between cs hole.1.stop b) := by
  have hbefore := kept_before h
  obtain ⟨hplace, hspan, hrest⟩ := h
  have hinside : kept (hole :: rest) hole.1.start (between cs hole.1.start hole.1.stop) = [] := by
    refine kept_of_covered fun i hi hi' => ?_
    rw [Text.length_between (by omega)] at hi'
    rw [covers_cons, decide_eq_true hi, decide_eq_true (by omega), Bool.and_self, Bool.true_or]
  have hbehind : kept (hole :: rest) hole.1.stop (between cs hole.1.stop b) =
      kept rest hole.1.stop (between cs hole.1.stop b) := by
    refine kept_congr (fun i hi => ?_) _
    rw [covers_cons, decide_eq_false (Nat.not_lt.2 hi), Bool.and_false, Bool.false_or]
  have hstart : place + (between cs place hole.1.start).length = hole.1.start := by
    rw [Text.length_between (by omega)]
    omega
  have hend : hole.1.start + (between cs hole.1.start hole.1.stop).length = hole.1.stop := by
    rw [Text.length_between (by omega)]
    omega
  rw [← Text.between_append cs hplace (Nat.le_trans hspan hstop), ← Text.between_append cs hspan hstop,
    kept_append, kept_append, hstart, hend, hbefore, hinside, hbehind, List.nil_append]

end First

/-- A text is itself with each match replaced by what was written. -/
theorem replaced_written {cs : List Char} : ∀ {place : Nat} {holes : List (Match × Path)},
    InOrder cs.length place (holes.map Prod.fst) →
      replaced cs place (holes.map fun hole => (hole.1, String.ofList (hole.1.written cs))) =
        String.ofList (cs.drop place)
  | _, [], _ => rfl
  | place, hole :: rest, ⟨hplace, hspan, hrest⟩ => by
    rw [List.map_cons, replaced, replaced_written hrest, ← String.ofList_append, ← String.ofList_append,
      show hole.1.written cs = between cs hole.1.start hole.1.stop from rfl,
      Text.between_append cs hplace hspan, Text.between_append_drop cs (Nat.le_trans hplace hspan)]

end Pattern

namespace Interpolation

open Pattern

/-! ## Literals and holes from the front -/

theorem skeleton_cons (literal : String) (path : Path) (text : Interpolation) :
    (cons literal path text).skeleton = literal ++ text.skeleton := rfl

theorem display_cons (literal : String) (path : Path) (text : Interpolation) :
    (cons literal path text).display =
      literal ++ "\x7b\x7b" ++ path.text ++ "\x7d\x7d" ++ text.display := rfl

/-- A hole is filled before those behind it. -/
theorem render_cons (literal : String) (path : Path) (text : Interpolation) (scope : Scope) :
    (cons literal path text).render scope =
      (scope.string path).bind fun value =>
        (text.render scope).map fun filled => literal ++ value ++ filled := by
  rw [render, cons, fill]
  rcases scope.string path with e | value <;> rfl

/-- The interpolation with holes for all these matches, from a place on. -/
def ofTaken (cs : List Char) : (place : Nat) → List (Match × Path) → Interpolation
  | place, [] => ⟨[], String.ofList (cs.drop place)⟩
  | place, hole :: rest =>
      cons (String.ofList (between cs place hole.1.start)) hole.2 (ofTaken cs hole.1.stop rest)

/-- Only the taken matches count. -/
theorem ofMatches_eq_ofTaken (cs : List Char) : ∀ (place : Nat) (found : List Match),
    ofMatches cs place found = ofTaken cs place (taken cs found)
  | _, [] => rfl
  | place, m :: rest => by
    rw [ofMatches, taken, List.filterMap_cons]
    rcases m.captured? cs with _ | expression
    · exact ofMatches_eq_ofTaken cs place rest
    · exact congrArg (cons _ _) (ofMatches_eq_ofTaken cs m.stop rest)

/-- **The skeleton is what no match covers.** -/
theorem skeleton_ofTaken {cs : List Char} : ∀ {place : Nat} {holes : List (Match × Path)},
    InOrder cs.length place (holes.map Prod.fst) →
      (ofTaken cs place holes).skeleton = String.ofList (kept holes place (cs.drop place))
  | place, [], _ => by
    rw [kept_of_free fun i _ => rfl]
    rfl
  | place, hole :: rest, h => by
    have hrest := h.2.2
    have hdrop : ∀ a, cs.drop a = between cs a cs.length := fun a => by rw [between, List.take_length]
    rw [ofTaken, skeleton_cons, skeleton_ofTaken hrest, hdrop, hdrop,
      kept_between h hrest.le_length (Nat.le_refl _), String.ofList_append]

/-- The bytes kept in front of a match. -/
theorem expressionsFrom_ofTaken {cs : List Char} : ∀ {bytes place : Nat}
    {holes : List (Match × Path)}, InOrder cs.length place (holes.map Prod.fst) →
      expressionsFrom bytes (ofTaken cs place holes).holes = holes.map fun hole =>
        (bytes + (String.ofList (kept holes place (between cs place hole.1.start))).utf8ByteSize, hole.2)
  | _, _, [], _ => rfl
  | bytes, place, hole :: rest, h => by
    have hrest := h.2.2
    rw [List.map_cons, kept_before h]
    refine congrArg (_ :: ·) ((expressionsFrom_ofTaken hrest).trans
      (List.map_congr_left fun later hlater => ?_))
    have hbehind := hrest.of_mem (List.mem_map_of_mem hlater)
    rw [kept_between h hbehind.1 (by omega), String.ofList_append, String.utf8ByteSize_append,
      Nat.add_assoc]

/-- **Shown, each match is its path between double braces.** -/
theorem display_ofTaken (cs : List Char) : ∀ (place : Nat) (holes : List (Match × Path)),
    (ofTaken cs place holes).display = replaced cs place
      (holes.map fun hole => (hole.1, "\x7b\x7b" ++ hole.2.text ++ "\x7d\x7d"))
  | _, [] => rfl
  | place, hole :: rest => by
    rw [ofTaken, display_cons, display_ofTaken cs hole.1.stop rest, List.map_cons, replaced]
    simp only [String.append_assoc]

/-- **Filled in, each match is the value at its path**, or the first that has none is the error. -/
theorem render_ofTaken (cs : List Char) (scope : Scope) : ∀ (place : Nat)
    (holes : List (Match × Path)),
    (ofTaken cs place holes).render scope =
      (holes.mapM fun hole => (scope.string hole.2).map (hole.1, ·)).map (replaced cs place)
  | _, [] => rfl
  | place, hole :: rest => by
    rw [ofTaken, render_cons, render_ofTaken cs scope hole.1.stop rest, List.mapM_cons]
    rcases scope.string hole.2 with e | value
    · rfl
    · generalize List.mapM (m := Except PathError) _ rest = values
      rcases values with e | values <;> rfl

/-! ## Offsets -/

/-- In front of each hole is as much of the skeleton as its offset says. -/
theorem exists_append_of_mem_expressionsFrom {t : String} {expression : Nat × Path} :
    ∀ {bytes : Nat} {holes : List (String × Path)}, expression ∈ expressionsFrom bytes holes →
      ∃ before after, skeleton ⟨holes, t⟩ = before ++ after ∧
        expression.1 = bytes + before.utf8ByteSize
  | bytes, (literal, path) :: rest, h => by
    rw [expressionsFrom] at h
    rcases List.mem_cons.1 h with rfl | h
    · exact ⟨literal, skeleton ⟨rest, t⟩, rfl, rfl⟩
    · obtain ⟨before, after, hrest, hbytes⟩ := exists_append_of_mem_expressionsFrom h
      refine ⟨literal ++ before, after, ?_, ?_⟩
      · rw [String.append_assoc, ← hrest]
        rfl
      · rw [hbytes, String.utf8ByteSize_append, Nat.add_assoc]

/-- **Every offset is a place between characters of the skeleton.** -/
theorem isValid_offset {text : Interpolation} {expression : Nat × Path}
    (h : expression ∈ text.expressions) :
    expression.1 ≤ text.skeleton.utf8ByteSize ∧
      String.Pos.Raw.IsValid text.skeleton ⟨expression.1⟩ := by
  obtain ⟨before, after, hskeleton, hbytes⟩ := exists_append_of_mem_expressionsFrom (t := text.tail) h
  rw [Nat.zero_add] at hbytes
  have hwhole : text.skeleton = before ++ after := hskeleton
  rw [hwhole, hbytes, String.utf8ByteSize_append]
  exact ⟨Nat.le_add_right _ _, String.Pos.Raw.isValid_iff_exists_append.2 ⟨before, after, rfl, rfl⟩⟩

/-- The offsets of the holes are in order. -/
theorem pairwise_expressionsFrom : ∀ (bytes : Nat) (holes : List (String × Path)),
    ((expressionsFrom bytes holes).map Prod.fst).Pairwise (· ≤ ·)
  | _, [] => .nil
  | bytes, (literal, path) :: rest => by
    refine .cons (fun offset hoffset => ?_) (pairwise_expressionsFrom _ rest)
    obtain ⟨expression, hmem, rfl⟩ := List.mem_map.1 hoffset
    obtain ⟨before, -, -, hbytes⟩ := exists_append_of_mem_expressionsFrom (t := "") hmem
    rw [hbytes]
    exact Nat.le_add_right _ _

/-- The part of a text between two bytes, on boundaries of its characters. -/
def Slice (text : String) (first last : Nat) (part : String) : Prop :=
  ∃ before after, text = before ++ part ++ after ∧ first = before.utf8ByteSize ∧
    last = first + part.utf8ByteSize

/-- A skeleton cut at offsets gives these literals, and the tail behind the last. -/
def Cuts (skeleton tail : String) : (last : Nat) → List (Nat × Path) → List (String × Path) → Prop
  | last, [], [] => Slice skeleton last skeleton.utf8ByteSize tail
  | last, (offset, path) :: rest, (literal, hole) :: holes =>
      Slice skeleton last offset literal ∧ path = hole ∧ Cuts skeleton tail offset rest holes
  | _, _, _ => False

theorem cuts_expressionsFrom (tail : String) : ∀ (before : String) (holes : List (String × Path)),
    Cuts (before ++ skeleton ⟨holes, tail⟩) tail before.utf8ByteSize
      (expressionsFrom before.utf8ByteSize holes) holes
  | before, [] => ⟨before, "", (String.append_empty).symm, rfl, String.utf8ByteSize_append⟩
  | before, (literal, path) :: rest => by
    have hskeleton : before ++ skeleton ⟨(literal, path) :: rest, tail⟩ =
        before ++ literal ++ skeleton ⟨rest, tail⟩ := (String.append_assoc).symm
    have hrest := cuts_expressionsFrom tail (before ++ literal) rest
    rw [String.utf8ByteSize_append] at hrest
    rw [hskeleton]
    exact ⟨⟨before, _, rfl, rfl, rfl⟩, rfl, hrest⟩

end Interpolation

/-! ## The whole -/

/-- **What a text is split into at its matches, and what it is filled to.** -/
structure Interpolation.Spliced (raw : String) (found : List Match) (text : Interpolation) : Prop where
  /-- The skeleton is the text without its taken matches. -/
  skeleton : text.skeleton = String.ofList (Pattern.kept (Pattern.taken raw.toList found) 0 raw.toList)
  /-- Each taken match has its path, at the place where it began in the skeleton. -/
  expressions : text.expressions = (Pattern.taken raw.toList found).map fun hole =>
    ((String.ofList (Pattern.kept (Pattern.taken raw.toList found) 0
      (raw.toList.take hole.1.start))).utf8ByteSize, hole.2)
  offsets_sorted : (text.expressions.map Prod.fst).Pairwise (· ≤ ·)
  offsets_valid : ∀ expression ∈ text.expressions,
    expression.1 ≤ text.skeleton.utf8ByteSize ∧ String.Pos.Raw.IsValid text.skeleton ⟨expression.1⟩
  /-- No cut at an offset fails, and the cuts give the literals. -/
  cuts : Cuts text.skeleton text.tail 0 text.expressions text.holes
  /-- With each taken match replaced by what was written the text is itself. -/
  written : Pattern.replaced raw.toList 0 ((Pattern.taken raw.toList found).map fun hole =>
    (hole.1, String.ofList (hole.1.written raw.toList))) = raw
  /-- Filling the holes replaces the taken matches. -/
  render : ∀ scope, text.render scope =
    ((Pattern.taken raw.toList found).mapM fun hole => (scope.string hole.2).map (hole.1, ·)).map
      (Pattern.replaced raw.toList 0)
  /-- An error is that of the leftmost match that cannot be replaced. -/
  render_error : ∀ scope e, text.render scope = .error e ↔
    ∃ before hole after, Pattern.taken raw.toList found = before ++ hole :: after ∧
      (∀ earlier ∈ before, ∃ value, scope.string earlier.2 = .ok value) ∧ scope.string hole.2 = .error e
  display : text.display = Pattern.replaced raw.toList 0
    ((Pattern.taken raw.toList found).map fun hole =>
      (hole.1, "\x7b\x7b" ++ hole.2.text ++ "\x7d\x7d"))

namespace Interpolation

open Pattern

/-- Filling the holes fails at the first that cannot be filled. -/
theorem render_ofTaken_eq_error {cs : List Char} {scope : Scope} {place : Nat}
    {holes : List (Match × Path)} {e : PathError} :
    (ofTaken cs place holes).render scope = .error e ↔
      ∃ before hole after, holes = before ++ hole :: after ∧
        (∀ earlier ∈ before, ∃ value, scope.string earlier.2 = .ok value) ∧
        scope.string hole.2 = .error e := by
  rw [render_ofTaken, Except.map_eq_error, Except.mapM_eq_error]
  simp only [Except.map_eq_error, Except.exists_map_eq_ok]

/-- What holds of the matches that any search finds in order. -/
theorem spliced_ofMatches {raw : String} {found : List Match}
    (h : InOrder raw.toList.length 0 found) : Spliced raw found (ofMatches raw.toList 0 found) := by
  have horder := h.taken raw.toList
  rw [ofMatches_eq_ofTaken]
  exact
    { skeleton := skeleton_ofTaken horder
      expressions := (expressionsFrom_ofTaken horder).trans (by simp only [Nat.zero_add]; rfl)
      offsets_sorted := pairwise_expressionsFrom 0 _
      offsets_valid := fun _ => isValid_offset
      cuts := cuts_expressionsFrom _ "" _
      written := (replaced_written horder).trans String.ofList_toList
      render := fun scope => render_ofTaken raw.toList scope 0 _
      render_error := fun _ _ => render_ofTaken_eq_error
      display := display_ofTaken raw.toList 0 _ }

/-- **Texts are split at their matches and filled where these were**: for the matches that any search finds in
order, and so for the matches of every grammar. -/
theorem splices_matches :
    (∀ (raw : String) (found : List Match), InOrder raw.toList.length 0 found →
      Spliced raw found (ofMatches raw.toList 0 found)) ∧
    ∀ (placeholder : Placeholder) (raw : String),
      InOrder raw.toList.length 0 (placeholder.occurrences raw.toList) ∧
      Spliced raw (placeholder.occurrences raw.toList) (ofText placeholder raw) := by
  refine ⟨fun raw found => spliced_ofMatches, fun placeholder raw => ?_⟩
  have horder := placeholder.regex.inOrder raw.toList
  exact ⟨horder, spliced_ofMatches horder⟩

/-- Two adjacent holes behind a character of several bytes, an empty match and a match whose group took no
part. -/
theorem splices_matches_adjacent :
    let raw := "\u65e5<a><b>!?"
    let found : List Match :=
      [⟨1, 4, some (2, 3)⟩, ⟨4, 4, some (4, 4)⟩, ⟨4, 7, some (5, 6)⟩, ⟨7, 8, none⟩]
    InOrder raw.toList.length 0 found ∧ Spliced raw found (ofMatches raw.toList 0 found) ∧
      (ofMatches raw.toList 0 found).expressions = [(3, ⟨"a"⟩), (3, ⟨""⟩), (3, ⟨"b"⟩)] := by
  intro raw found
  have horder : InOrder raw.toList.length 0 found := by decide
  have hspliced := splices_matches.1 raw found horder
  exact ⟨horder, hspliced, hspliced.expressions.trans (by decide)⟩

end Interpolation

end Stencil
