import ChangeReview.Proofs.Run.Ending

/-!
# The phases of a run

What becomes of the model's reply settles the course of a run: the phases that it sets from first to
last. A run may break off before any phase that it has still to reach; it has then set a part of its
course and the phase of an error, and reports the last phase of that part. The model may run reviews
of its own while it answers, which may do the same. Every run puts back the context that it was
started in, so what runs inside another one leaves no trace in it.
-/

namespace ChangeReview.Run

open Reply Scan

/-! ## Runs that break off anywhere -/

/-- What keeps a run from reaching a phase. -/
abbrev Obstacles := Phase → Option Breakdown

/-- Set phases in turn, up to one that is not reached. -/
def Track.advance (obstacles : Obstacles) (t : Track) : List Phase → Option Breakdown × Track
  | [] => (none, t)
  | p :: rest =>
    match obstacles p with
    | some b => (some b, t)
    | none => (t.set p).advance obstacles rest

/-- The phases between the first and the answer of the model. -/
def opening : List Phase := [.scanning, .prompting, .awaitingModel]

/-- The phases after the answer, by what it holds. -/
def closing : Except ModelPathError Decoded → List Phase
  | .ok _ => [.decoding, .merged, .scored, .done]
  | .error (.decode _) => [.decoding, .fallback, .scored, .done]
  | .error (.call _) => [.fallback, .scored, .done]

/-- The phases of a run that comes to its end. -/
def course (payload : Except ModelPathError Decoded) : List Phase :=
  .init :: (opening ++ closing payload)

/-- How a run ends that breaks off where its track stands. -/
def endBroken (config : ReviewConfig) (request : Request) (guard : PhaseGuard) (b : Breakdown)
    (track : Track) (prompts : List String) : Ended :=
  ⟨broken config request b track.context, (track.set .error).own.reverse,
    (track.set .error).context.leave guard, prompts⟩

/-- A run that may break off on its way to any phase. -/
def analyzeAgainst (obstacles : Obstacles) (threads : Threads) (scanner : Scanner)
    (config : ReviewConfig) (model : Model) (request : Request) (context : PhaseContext) : Ended :=
  let (guard, entered) := context.enter .init
  match Track.advance obstacles ⟨entered, [.init]⟩ opening with
  | (some b, track) => endBroken config request guard b track []
  | (none, track) =>
    match model.name with
    | .error b => endBroken config request guard b track []
    | .ok reported =>
      let prompt := promptOf threads scanner config request
      let (answer, context) := model.generate prompt track.context
      match Track.advance obstacles { track with context } (closing (payloadOf answer)) with
      | (some b, track) => endBroken config request guard b track [prompt]
      | (none, track) =>
        ⟨finish config request (eligible config.scanner request.files)
            (modelName config.model reported)
            (conclude (payloadOf answer) (analysesOf threads scanner config request)),
          track.own.reverse, track.context.leave guard, [prompt]⟩

section

variable (obstacles : Obstacles) (threads : Threads) (scanner : Scanner) (config : ReviewConfig)
  (model : Model) (request : Request) (context : PhaseContext)

/-- Without obstacles this is the run itself. -/
theorem analyzeAgainst_none :
    analyzeAgainst (fun _ ↦ none) threads scanner config model request context =
      analyze threads scanner config model request context := by
  cases hname : model.name with
  | error b =>
    simp only [analyzeAgainst, analyze, body, opening, Track.advance, hname]
    rfl
  | ok reported =>
    cases hreply : (answerOf threads scanner config model request).reply? with
    | error e =>
      simp only [answerOf, promptOf, analysesOf] at hreply
      simp only [analyzeAgainst, analyze, body, opening, Track.advance, hname, Track.set,
        PhaseContext.persist, payloadOf, promptOf, analysesOf, hreply]
      rfl
    | ok raw =>
      simp only [answerOf, promptOf, analysesOf] at hreply
      cases hdecode : decode raw with
      | error e =>
        simp only [analyzeAgainst, analyze, body, opening, Track.advance, hname, Track.set,
          PhaseContext.persist, payloadOf, promptOf, analysesOf, hreply, hdecode]
        rfl
      | ok decoded =>
        simp only [analyzeAgainst, analyze, body, opening, Track.advance, hname, Track.set,
          PhaseContext.persist, payloadOf, promptOf, analysesOf, hreply, hdecode]
        rfl

/-- Every run puts back the context that it was started in, wherever it breaks off. -/
theorem context_analyzeAgainst :
    (analyzeAgainst obstacles threads scanner config model request context).context = context := by
  simp only [analyzeAgainst]
  split
  · rfl
  · split
    · rfl
    · split <;> rfl

end

/-! ## What a run has set -/

/-- A track on which exactly these phases have been set; the current one is the last of them. -/
structure Track.After (phases : List Phase) (t : Track) : Prop where
  own : t.own.reverse = phases
  context : t.context = phases.getLast?

namespace Track.After

variable {phases : List Phase} {t : Track}

/-- One more phase is set. -/
theorem set (h : t.After phases) (p : Phase) : (t.set p).After (phases ++ [p]) where
  own := by
    show (p :: t.own).reverse = phases ++ [p]
    rw [List.reverse_cons, h.own]
  context := List.getLast?_concat.symm

/-- On its way through further phases, a track comes to the end or stops before one of them. -/
theorem advance (h : t.After phases) (obstacles : Obstacles) (todo : List Phase) :
    (∃ t', t.advance obstacles todo = (none, t') ∧ t'.After (phases ++ todo)) ∨
      ∃ b t' done rest, t.advance obstacles todo = (some b, t') ∧ todo = done ++ rest ∧
        rest ≠ [] ∧ t'.After (phases ++ done) := by
  induction todo generalizing t phases with
  | nil => exact .inl ⟨t, rfl, by rwa [List.append_nil]⟩
  | cons p todo ih =>
    cases hp : obstacles p with
    | some b =>
      refine .inr ⟨b, t, [], p :: todo, ?_, rfl, List.cons_ne_nil p todo, by rwa [List.append_nil]⟩
      simp only [Track.advance, hp]
    | none =>
      have hstep : t.advance obstacles (p :: todo) = (t.set p).advance obstacles todo := by
        simp only [Track.advance, hp]
      rw [hstep]
      rcases ih (h.set p) with ⟨t', hall, hafter⟩ | ⟨b, t', done, rest, hpart, rfl, hrest, hafter⟩
      · exact .inl ⟨t', hall, by rwa [List.append_assoc] at hafter⟩
      · exact .inr ⟨b, t', p :: done, rest, hpart, rfl, hrest, by rwa [List.append_assoc] at hafter⟩

end Track.After

/-- The course was kept to: all of it, or a part of it and then an error that is told as having
happened in the last phase of that part. -/
inductive Follows (course : List Phase) (e : Ended) : Prop
  | whole (phases : e.phases = course) (status : e.outcome.status ≠ .failed)
  | brokenOff (done rest : List Phase) (split : course = done ++ rest) (started : done ≠ [])
    (unfinished : rest ≠ []) (phases : e.phases = done ++ [.error])
    (status : e.outcome.status = .failed)
    (error : ∃ details, e.outcome.error = some details ∧ details.phase = done.getLast?)

/-- A run that breaks off tells the phase that was set last. -/
theorem follows_endBroken (config : ReviewConfig) (request : Request) (guard : PhaseGuard)
    (b : Breakdown) (prompts : List String) {track : Track} {done rest : List Phase}
    (h : track.After done) (hdone : done ≠ []) (hrest : rest ≠ []) :
    Follows (done ++ rest) (endBroken config request guard b track prompts) :=
  .brokenOff done rest rfl hdone hrest (h.set .error).own rfl ⟨_, rfl, h.context⟩

theorem closing_ne_nil (payload : Except ModelPathError Decoded) : closing payload ≠ [] := by
  rcases payload with (e | e) | decoded <;> exact List.cons_ne_nil _ _

section

variable (obstacles : Obstacles) (threads : Threads) (scanner : Scanner) (config : ReviewConfig)
  {model : Model} (request : Request) (context : PhaseContext)

/-- A run follows its course when the answers of the model leave the phase alone. -/
theorem follows_analyzeAgainst
    (hmodel : ∀ prompt context, (model.generate prompt context).2 = context) :
    Follows (course (payloadOf (answerOf threads scanner config model request)))
      (analyzeAgainst obstacles threads scanner config model request context) := by
  have hbegun : Track.After [.init] ⟨some .init, [.init]⟩ := ⟨rfl, rfl⟩
  have hclosing := closing_ne_nil (payloadOf (answerOf threads scanner config model request))
  simp only [analyzeAgainst, PhaseContext.enter]
  -- a run stops in its opening, at the name of the model or in its closing, or comes to the end
  rcases hbegun.advance obstacles opening with
    ⟨track, hall, hopened⟩ | ⟨b, track, done, rest, hpart, hsplit, hrest, hafter⟩
  · rw [hall]
    dsimp only
    cases model.name with
    | error b => exact follows_endBroken config request _ b [] hopened (List.cons_ne_nil _ _) hclosing
    | ok reported =>
      dsimp only
      have hwaiting : track.context = some .awaitingModel := hopened.context
      have hanswered : Track.After (.init :: opening) ⟨some .awaitingModel, track.own⟩ :=
        ⟨hopened.own, rfl⟩
      rw [hmodel, hwaiting, ← answerOf]
      rcases hanswered.advance obstacles
          (closing (payloadOf (answerOf threads scanner config model request))) with
        ⟨track', hall', hdone⟩ | ⟨b, track', done, rest, hpart, hsplit, hrest, hafter⟩
      · rw [hall']
        exact .whole hdone.own (status_conclude_ne _ _)
      · rw [hpart, course, hsplit, ← List.cons_append, ← List.append_assoc]
        exact follows_endBroken config request _ b _ hafter (List.cons_ne_nil _ _) hrest
  · rw [hpart, course, hsplit, List.append_assoc]
    exact follows_endBroken config request _ b [] hafter (List.cons_ne_nil _ _)
      (List.append_ne_nil_of_left_ne_nil hrest _)

end

/-! ## Runs inside runs -/

/-- The model that gives the same answers and leaves the phase alone. -/
def settled (model : Model) : Model :=
  ⟨model.name, fun prompt context ↦ ((model.generate prompt context).1, context)⟩

/-- What a model does before it answers: look at the current phase, and run reviews whose model may
do the same. -/
inductive Conduct where
  | answer (a : Answer)
  | look (next : PhaseContext → Conduct)
  | review (obstacles : Obstacles) (threads : Threads) (scanner : Scanner) (config : ReviewConfig)
    (request : Request) (name : Except Breakdown String) (inner : String → Conduct)
    (next : Outcome → Conduct)

namespace Conduct

/-- The answer, and the context in which it is given. -/
def act : Conduct → PhaseContext → Answer × PhaseContext
  | answer a, context => (a, context)
  | look next, context => (next context).act context
  | review obstacles threads scanner config request name inner next, context =>
    let ended := analyzeAgainst obstacles threads scanner config
      ⟨name, fun prompt context ↦ (inner prompt).act context⟩ request context
    (next ended.outcome).act ended.context

/-- The model that acts like this on a prompt. -/
def model (name : Except Breakdown String) (conduct : String → Conduct) : Model :=
  ⟨name, fun prompt context ↦ (conduct prompt).act context⟩

/-- However deep the reviews are nested, the answer is given in the phase of the question. -/
theorem act_context (c : Conduct) (context : PhaseContext) : (c.act context).2 = context := by
  induction c generalizing context with
  | answer a => rfl
  | look next ih => exact ih context context
  | review obstacles threads scanner config request name inner next ihInner ihNext =>
    -- the inner review restores the context by itself, whatever its own model does
    rw [act, ihNext]
    exact context_analyzeAgainst obstacles threads scanner config _ request context

/-- The reviews that a model runs before it answers make it no other model. -/
theorem settled_model (name : Except Breakdown String) (conduct : String → Conduct) :
    settled (model name conduct) = model name conduct := by
  have hgenerate (prompt : String) (context : PhaseContext) :
      (((conduct prompt).act context).1, context) = (conduct prompt).act context :=
    Prod.ext rfl (act_context _ context).symm
  simp only [settled, model, hgenerate]

end Conduct

/-! ## The course of every run -/

section

variable (threads : Threads) (scanner : Scanner) (config : ReviewConfig) (model : Model)
  (request : Request) (context : PhaseContext)

theorem answerOf_settled :
    answerOf threads scanner config (settled model) request =
      answerOf threads scanner config model request := rfl

/-- A run that meets no obstacle sets the next phase whatever the model has done with the last. -/
theorem analyze_settled :
    analyze threads scanner config (settled model) request context =
      analyze threads scanner config model request context := by
  cases hname : model.name with
  | error b => simp only [analyze, body, settled, hname]
  | ok reported => simp only [analyze, body, settled, hname, Track.set, PhaseContext.persist]

end

/-- Every run follows its course, to its end if the model has a name, and puts back the context that
it was started in, whatever the model does. So does a run that may break off before any of its
phases and whose model runs reviews of its own, nested to any depth and as likely to break off: to
such a run it is all one whether the model runs them or gives its answers at once. -/
theorem analyze_follows_course (threads : Threads) (scanner : Scanner) (config : ReviewConfig)
    (request : Request) (context : PhaseContext) :
    (∀ model : Model,
      let e := analyze threads scanner config model request context
      Follows (course (payloadOf (answerOf threads scanner config model request))) e ∧
        e.context = context ∧
        (e.outcome.status ≠ .failed ↔ ∃ reported, model.name = .ok reported)) ∧
    (∀ model : Model, analyzeAgainst (fun _ ↦ none) threads scanner config model request context =
      analyze threads scanner config model request context) ∧
    ∀ (obstacles : Obstacles) (name : Except Breakdown String) (conduct : String → Conduct),
      let model := Conduct.model name conduct
      let e := analyzeAgainst obstacles threads scanner config model request context
      Follows (course (payloadOf (answerOf threads scanner config model request))) e ∧
        e.context = context ∧
        e = analyzeAgainst obstacles threads scanner config (settled model) request context := by
  refine ⟨fun model ↦ ?_,
    fun model ↦ analyzeAgainst_none threads scanner config model request context,
    fun obstacles name conduct ↦ ⟨?_, ?_, ?_⟩⟩
  · refine ⟨?_, ?_, status_analyze_ne_iff threads scanner config model request context⟩
    · rw [← analyze_settled, ← answerOf_settled, ← analyzeAgainst_none]
      exact follows_analyzeAgainst _ threads scanner config request context fun _ _ ↦ rfl
    · rw [← analyzeAgainst_none]
      exact context_analyzeAgainst _ threads scanner config model request context
  · exact follows_analyzeAgainst obstacles threads scanner config request context
      fun prompt context ↦ Conduct.act_context (conduct prompt) context
  · exact context_analyzeAgainst obstacles threads scanner config _ request context
  · rw [Conduct.settled_model]

end ChangeReview.Run
