/-
  Replacing the code blocks of a stream while its events are asked for, one at a time.

  * `next?` is the next event: a code block is read to its end, and its HTML takes its place.
    `pulled` are the events that come until there is none left, and `replaceCode_eq` says that these
    are the events of `replaceCode`;
  * `Part` is what one event comes of: a whole code block, or any other event. `pulled_parts` says
    so of the parts of a stream, whatever follows them;
  * `Alternating` are the streams in which code blocks are entered and left in turn;
    `exists_parts` cuts them into parts;
  * `pulled_alternating` puts this together, and says what becomes of a stream that ends within
    a code block.
-/
import JiraMarkup.Html.CodeBlock

namespace JiraMarkup.Html

open Markdown (Event CodeKind)

/-! ## One event at a time -/

/-- The text of an event, if it has any that counts in a code block. -/
def textOf : Event → Text
  | .text t => t
  | _ => []

/-- The text up to the end of a code block, and the events after it. -/
def collectCode : List Event → Text × List Event
  | [] => ([], [])
  | .leave (.codeBlock _) :: es => ([], es)
  | e :: es => (textOf e ++ (collectCode es).1, (collectCode es).2)

/-- The next event of a stream in which `block` writes the code blocks, and the events left. -/
def next? (block : Text → Option Text → Text) : List Event → Option (Event × List Event)
  | [] => none
  | .enter (.codeBlock kind) :: es =>
    some (.html (block (collectCode es).1 kind.tag?), (collectCode es).2)
  | e :: es => some (e, es)

/-- What an event does to the code blocks. -/
inductive CodeEdge where
  | enters
  | leaves
  deriving DecidableEq, Repr

/-- What an event does to the code blocks, if anything. -/
def codeEdge? : Event → Option CodeEdge
  | .enter (.codeBlock _) => some .enters
  | .leave (.codeBlock _) => some .leaves
  | _ => none

theorem length_collectCode_le (es : List Event) : (collectCode es).2.length ≤ es.length := by
  induction es using collectCode.induct with
  | case1 => exact Nat.le_refl _
  | case2 => exact Nat.le_succ _
  | case3 e es hne ih =>
    rw [collectCode.eq_3 e es hne]
    exact Nat.le_succ_of_le ih

variable {block : Text → Option Text → Text}

/-- Each event that comes takes some from the stream. -/
theorem length_lt_of_next? {e : Event} {es rest : List Event}
    (h : next? block es = some (e, rest)) : rest.length < es.length := by
  rw [next?.eq_def] at h
  split at h
  · cases h
  · next es =>
    cases h
    exact Nat.lt_succ_of_le (length_collectCode_le es)
  · cases h
    exact Nat.lt_succ_self _

/-- The events that come until there is none left. -/
def pulled (block : Text → Option Text → Text) (es : List Event) : List Event :=
  match _hnext : next? block es with
  | none => []
  | some (e, rest) => e :: pulled block rest
termination_by es.length
decreasing_by exact length_lt_of_next? _hnext

theorem pulled_nil : pulled block [] = [] := by rw [pulled]; rfl

theorem pulled_of_next? {e : Event} {es rest : List Event} (h : next? block es = some (e, rest)) :
    pulled block es = e :: pulled block rest := by
  rw [pulled]
  split
  · next h' => simp [h'] at h
  · next h' =>
    rw [h'] at h
    cases h
    rfl

/-! ## What runs -/

/-- The events that come while the code block `inside` is open, if there is one. -/
def pulledWithin (block : Text → Option Text → Text) :
    (inside : Option OpenCode) → List Event → List Event
  | none, es => pulled block es
  | some o, es =>
    .html (block (o.pieces.reverse.flatten ++ (collectCode es).1) o.kind.tag?) ::
      pulled block (collectCode es).2

theorem replaceCodeFrom_eq (block : Text → Option Text → Text) (inside : Option OpenCode)
    (es : List Event) : (replaceCodeFrom block inside es).1 = pulledWithin block inside es := by
  induction inside, es using replaceCodeFrom.induct block with
  | case1 =>
    rw [pulledWithin, pulled_nil]
    rfl
  | case2 o =>
    rw [pulledWithin, collectCode, pulled_nil, List.append_nil]
    rfl
  | case3 kind es ih =>
    have hnext : next? block (.enter (.codeBlock kind) :: es) = _ := next?.eq_2 ..
    rw [replaceCodeFrom, ih, pulledWithin, pulledWithin, pulled_of_next? hnext]
    rfl
  | case4 e es he _ _ _ ih =>
    rw [replaceCodeFrom.eq_4 block e es he, pulledWithin,
      pulled_of_next? (next?.eq_3 block e es he)]
    exact congrArg (e :: ·) ih
  | case5 o kind es _ _ _ ih =>
    rw [replaceCodeFrom, pulledWithin, collectCode, List.append_nil]
    exact congrArg (o.found.event block :: ·) ih
  | case6 o t es ih =>
    have hleave : ∀ kind, Event.text t = .leave (.codeBlock kind) → False := nofun
    rw [replaceCodeFrom, ih, pulledWithin, pulledWithin, collectCode.eq_3 _ es hleave]
    simp [textOf]
  | case7 o e es hleave htext ih =>
    have hnone : textOf e = [] := textOf.eq_2 e htext
    rw [replaceCodeFrom.eq_7 block o e es hleave htext, ih, pulledWithin, pulledWithin,
      collectCode.eq_3 e es hleave, hnone]
    rfl

/-- **The events that come are those of the stream that is written.** -/
theorem replaceCode_eq (block : Text → Option Text → Text) (es : List Event) :
    (replaceCode block es).1 = pulled block es := replaceCodeFrom_eq block none es

/-! ## Parts of a stream -/

/-- A part of a stream: an event that does nothing to the code blocks, or a whole code block. -/
inductive Part where
  | other (e : Event) (he : codeEdge? e = none)
  | code (kind kind' : CodeKind) (inside : List Event) (hinside : ∀ e ∈ inside, codeEdge? e = none)

/-- The events of a part. -/
def Part.events : Part → List Event
  | .other e _ => [e]
  | .code kind kind' inside _ =>
    .enter (.codeBlock kind) :: (inside ++ [.leave (.codeBlock kind')])

/-- The one event that takes their place: for a code block its HTML, and else the event itself. -/
def Part.replaced (block : Text → Option Text → Text) : Part → Event
  | .other e _ => e
  | .code kind _ inside _ => .html (block (inside.flatMap textOf) kind.tag?)

/-- Code is collected up to where the code block is left. -/
theorem collectCode_append {inside : List Event} (h : ∀ e ∈ inside, codeEdge? e ≠ some .leaves)
    (rest : List Event) : collectCode (inside ++ rest) =
      (inside.flatMap textOf ++ (collectCode rest).1, (collectCode rest).2) := by
  induction inside with
  | nil => rfl
  | cons e es ih =>
    rw [List.forall_mem_cons] at h
    have he : ∀ kind, e = .leave (.codeBlock kind) → False := fun kind heq => h.1 (by rw [heq]; rfl)
    rw [List.cons_append, collectCode.eq_3 e _ he, ih h.2, List.flatMap_cons, List.append_assoc]

/-- **One event comes of a part**, and what follows the part is left. -/
theorem next?_part (p : Part) (rest : List Event) :
    next? block (p.events ++ rest) = some (p.replaced block, rest) := by
  cases p with
  | other e he => exact next?.eq_3 block e rest fun kind heq => by simp [heq, codeEdge?] at he
  | code kind kind' inside hinside =>
    have hstays : ∀ e ∈ inside, codeEdge? e ≠ some .leaves := fun e he => by simp [hinside e he]
    have hevents : (Part.code kind kind' inside hinside).events ++ rest =
        .enter (.codeBlock kind) :: (inside ++ .leave (.codeBlock kind') :: rest) := by
      simp [Part.events]
    rw [hevents, next?, collectCode_append hstays, collectCode, List.append_nil]
    rfl

/-- Of a code block that is not left, the rest of the stream is read. -/
theorem next?_unfinished (kind : CodeKind) {rest : List Event}
    (h : ∀ e ∈ rest, codeEdge? e ≠ some .leaves) :
    next? block (.enter (.codeBlock kind) :: rest) =
      some (.html (block (rest.flatMap textOf) kind.tag?), []) := by
  have hcollect := collectCode_append h []
  rw [List.append_nil, collectCode, List.append_nil] at hcollect
  rw [next?, hcollect]

/-- **One event comes of each part**, in their order. -/
theorem pulled_parts (block : Text → Option Text → Text) (parts : List Part) (rest : List Event) :
    pulled block (parts.flatMap Part.events ++ rest) =
      parts.map (Part.replaced block) ++ pulled block rest := by
  induction parts with
  | nil => rfl
  | cons p parts ih =>
    rw [List.flatMap_cons, List.append_assoc, pulled_of_next? (next?_part p _), ih, List.map_cons,
      List.cons_append]

theorem codeEdge?_replaced (p : Part) : codeEdge? (p.replaced block) = none := by
  cases p with
  | other e he => exact he
  | code => rfl

/-! ## Streams that enter and leave code blocks in turn -/

/-- Entering and leaving a code block, `n` times. -/
def turns (n : Nat) : List CodeEdge := (List.replicate n [.enters, .leaves]).flatten

/-- Code blocks are entered and left in turn: first one is entered, and the last is left. -/
def Alternating (es : List Event) : Prop := ∃ n, es.filterMap codeEdge? = turns n

/-- An event of a code block that does so. -/
def CodeEdge.event (kind : CodeKind) : CodeEdge → Event
  | .enters => .enter (.codeBlock kind)
  | .leaves => .leave (.codeBlock kind)

theorem exists_of_codeEdge? {e : Event} {edge : CodeEdge} (h : codeEdge? e = some edge) :
    ∃ kind, e = edge.event kind := by
  rw [codeEdge?.eq_def] at h
  split at h
  · next kind =>
    cases h
    exact ⟨kind, rfl⟩
  · next kind =>
    cases h
    exact ⟨kind, rfl⟩
  · cases h

/-- What is read outside of code blocks is made of parts; within one, it leads to the end of the
    code block first. -/
theorem exists_parts_within (es : List Event) :
    (∀ n, es.filterMap codeEdge? = turns n → ∃ parts : List Part, es = parts.flatMap Part.events) ∧
      ∀ n, es.filterMap codeEdge? = .leaves :: turns n →
        ∃ (inside : List Event) (kind : CodeKind) (parts : List Part),
          (∀ e ∈ inside, codeEdge? e = none) ∧
            es = inside ++ .leave (.codeBlock kind) :: parts.flatMap Part.events := by
  induction es with
  | nil => exact ⟨fun n _ => ⟨[], rfl⟩, fun n h => by simp at h⟩
  | cons e es ih =>
    obtain ⟨houtside, hwithin⟩ := ih
    -- Entering is possible outside only, and leaving within only.
    rcases hedge : codeEdge? e with _ | _ | _
    · rw [List.filterMap_cons_none hedge]
      refine ⟨fun n h => ?_, fun n h => ?_⟩
      · obtain ⟨parts, rfl⟩ := houtside n h
        exact ⟨.other e hedge :: parts, rfl⟩
      · obtain ⟨inside, kind, parts, hinside, rfl⟩ := hwithin n h
        exact ⟨e :: inside, kind, parts, List.forall_mem_cons.2 ⟨hedge, hinside⟩, rfl⟩
    · obtain ⟨kind, rfl⟩ := exists_of_codeEdge? hedge
      rw [List.filterMap_cons_some hedge]
      refine ⟨fun n h => ?_, fun n h => nomatch (List.cons.inj h).1⟩
      rcases n with _ | n
      · cases h
      · obtain ⟨inside, kind', parts, hinside, rfl⟩ := hwithin n (List.cons.inj h).2
        exact ⟨.code kind kind' inside hinside :: parts, by simp [Part.events, CodeEdge.event]⟩
    · obtain ⟨kind, rfl⟩ := exists_of_codeEdge? hedge
      rw [List.filterMap_cons_some hedge]
      refine ⟨fun n h => ?_, fun n h => ?_⟩
      · rcases n with _ | n
        · cases h
        · exact nomatch (List.cons.inj h).1
      · obtain ⟨parts, rfl⟩ := houtside n (List.cons.inj h).2
        exact ⟨[], kind, parts, List.forall_mem_nil _, rfl⟩

/-- **Such streams are made of parts.** -/
theorem Alternating.exists_parts {es : List Event} (h : Alternating es) :
    ∃ parts : List Part, es = parts.flatMap Part.events := by
  obtain ⟨n, h⟩ := h
  exact (exists_parts_within es).1 n h

/-- **Code blocks are replaced, and nothing else.** What is written are the events that come one
    at a time. A stream that enters and leaves code blocks in turn is made of parts, and each part
    becomes one event: a code block its HTML, with all text in it, and any other event itself. So
    no event that enters or leaves a code block is left, and what follows such a stream is treated
    as if it were alone. If a code block follows that is not left, the rest of the stream is read
    for one event with its HTML, and there are no others. -/
theorem pulled_alternating {es : List Event} (h : Alternating es) :
    (∀ block es', (replaceCode block es').1 = pulled block es') ∧
      (∃ parts : List Part, es = parts.flatMap Part.events) ∧
      (∀ block (parts : List Part), es = parts.flatMap Part.events →
        pulled block es = parts.map (Part.replaced block)) ∧
      (∀ block, ∀ e ∈ pulled block es, codeEdge? e = none) ∧
      (∀ block es', pulled block (es ++ es') = pulled block es ++ pulled block es') ∧
      ∀ block kind rest, (∀ e ∈ rest, codeEdge? e ≠ some .leaves) →
        let last := .html (block (rest.flatMap textOf) kind.tag?)
        next? block (.enter (.codeBlock kind) :: rest) = some (last, []) ∧
          pulled block (es ++ .enter (.codeBlock kind) :: rest) = pulled block es ++ [last] := by
  have hreplaced : ∀ block (parts : List Part), es = parts.flatMap Part.events →
      pulled block es = parts.map (Part.replaced block) := by
    intro block parts hparts
    have hpulled := pulled_parts block parts []
    rwa [List.append_nil, ← hparts, pulled_nil, List.append_nil] at hpulled
  obtain ⟨parts, hparts⟩ := h.exists_parts
  have happend : ∀ block es', pulled block (es ++ es') = pulled block es ++ pulled block es' := by
    intro block es'
    rw [hreplaced block parts hparts, hparts, pulled_parts]
  refine ⟨replaceCode_eq, ⟨parts, hparts⟩, hreplaced, fun block e he => ?_, happend,
    fun block kind rest hrest => ?_⟩
  · rw [hreplaced block parts hparts] at he
    obtain ⟨p, -, rfl⟩ := List.mem_map.1 he
    exact codeEdge?_replaced p
  · have hnext : next? block (.enter (.codeBlock kind) :: rest) = _ := next?_unfinished kind hrest
    exact ⟨hnext, by rw [happend, pulled_of_next? hnext, pulled_nil]⟩

/-- A code block with a break in it, after a text, and then one that is not left. -/
theorem pulled_alternating_unfinished :
    let es : List Event := [.text "a", .enter (.codeBlock (.fenced "rust ignore")), .text "b",
      .softBreak, .text "c", .leave (.codeBlock .indented), .rule]
    let rest : List Event := [.text "d", .enter (.codeBlock .indented), .text "e"]
    Alternating es ∧ (∀ e ∈ rest, codeEdge? e ≠ some .leaves) ∧
      ∀ block, pulled block (es ++ .enter (.codeBlock .indented) :: rest) =
        [.text "a", .html (block "bc" (some "rust".toList)), .rule, .html (block "de" none)] := by
  intro es rest
  have hes : Alternating es := ⟨1, rfl⟩
  have hrest : ∀ e ∈ rest, codeEdge? e ≠ some .leaves := by decide
  obtain ⟨-, -, hreplaced, -, -, hunfinished⟩ := pulled_alternating hes
  refine ⟨hes, hrest, fun block => ?_⟩
  have hparts := hreplaced block [.other (.text "a") rfl,
    .code (.fenced "rust ignore") .indented [.text "b", .softBreak, .text "c"] (by decide),
    .other .rule rfl] rfl
  rw [(hunfinished block .indented rest hrest).2, hparts]
  rfl

end JiraMarkup.Html
