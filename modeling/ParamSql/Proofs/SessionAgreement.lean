import ParamSql.Proofs.Course
import ParamSql.Proofs.Lists
import ParamSql.Proofs.StatementAgreement

/-!
# Sessions in agreement

Two sessions agree when they give the same names to builders that agree, whoever owns the
transactions of these. Steps that are not about transactions are then answered alike, in blocks as
well, and lead to sessions that agree again. So a copy goes through any run of such steps as its
original does, and a builder that was reset goes through it as a new one.
-/

namespace ParamSql

/-- Two results are alike: the same failure, or values that are related. -/
inductive ResultAlike {α : Type} (R : α → α → Prop) : Except Failure α → Except Failure α → Prop
  | error (e : Failure) : ResultAlike R (.error e) (.error e)
  | ok {a a' : α} (h : R a a') : ResultAlike R (.ok a) (.ok a')

theorem ResultAlike.map {α β : Type} {R : α → α → Prop} {S : β → β → Prop}
    {result result' : Except Failure α} (h : ResultAlike R result result') {f f' : α → β}
    (hf : ∀ a a', R a a' → S (f a) (f' a')) : ResultAlike S (result.map f) (result'.map f') := by
  cases h with
  | error e => exact .error e
  | ok ha => exact .ok (hf _ _ ha)

/-- Two sessions with the same names, in which builders at the same place agree. -/
structure Session.Agree (withArgs : Bool) (s s' : Session) : Prop where
  members : List.Forall₂ (fun m m' => Builder.Agree withArgs m.builder m'.builder)
    s.members s'.members
  names_eq : s'.names = s.names
  serial_eq : s'.serial = s.serial

def Session.put (s : Session) (place : Nat) (m : Member) : Session :=
  { s with members := s.members.set place m }

/-- Two answers with the same outcome and the same events, and the same again for all inner steps.
The builders afterwards agree. -/
inductive Answer.Agree (withArgs : Bool) : Answer → Answer → Prop
  | intro (outcome : Except Failure Reply) (events : List Event) {builder builder' : Option Builder}
      {inner inner' : Option (List Answer)}
      (builders : Option.Rel (Builder.Agree withArgs) builder builder')
      (bodies : Option.Rel (List.Forall₂ (Answer.Agree withArgs)) inner inner') :
      Answer.Agree withArgs ⟨outcome, events, builder, inner⟩ ⟨outcome, events, builder', inner'⟩

namespace Step

mutual

/-- Whether the step and its inner steps are about statements and not about transactions. -/
def isAboutStatements (withArgs : Bool) : Step → Bool
  | ask _ req _ => req.isAboutStatement withArgs
  | fail _ _ => true
  | transaction _ _ => false
  | whereClause _ body => areAboutStatements withArgs body

def areAboutStatements (withArgs : Bool) : List Step → Bool
  | [] => true
  | step :: rest => isAboutStatements withArgs step && areAboutStatements withArgs rest

end

end Step

namespace Session

/-- From sessions that agree the two runs give related answers and lead to sessions that agree. -/
def Parallel {α : Type} (withArgs : Bool) (S : α → α → Prop) (run run' : StateM Session α) : Prop :=
  ∀ s s' : Session, s.Agree withArgs s' →
    S (run s).1 (run' s').1 ∧ (run s).2.Agree withArgs (run' s').2

namespace Parallel

variable {withArgs : Bool} {α β : Type} {S : α → α → Prop} {T : β → β → Prop}

theorem pure {a a' : α} (h : S a a') : Parallel withArgs S (Pure.pure a) (Pure.pure a') :=
  fun _ _ hs => ⟨h, hs⟩

theorem bind {run run' : StateM Session α} {next next' : α → StateM Session β}
    (first : Parallel withArgs S run run')
    (last : ∀ a a', S a a' → Parallel withArgs T (next a) (next' a')) :
    Parallel withArgs T (run >>= next) (run' >>= next') := by
  intro s s' hs
  obtain ⟨hanswer, hafter⟩ := first s s' hs
  exact last _ _ hanswer _ _ hafter

theorem andThen {run run' : StateM Session α} {next next' : α → StateM Session β}
    (first : Parallel withArgs Eq run run')
    (last : ∀ a, Parallel withArgs T (next a) (next' a)) :
    Parallel withArgs T (run >>= next) (run' >>= next') :=
  first.bind fun a _ same => same ▸ last a

theorem get_bind {next next' : Session → StateM Session β}
    (h : ∀ s s', s.Agree withArgs s' → Parallel withArgs T (next s) (next' s')) :
    Parallel withArgs T (MonadState.get >>= next) (MonadState.get >>= next') :=
  fun s s' hs => h s s' hs s s' hs

end Parallel

namespace Agree

variable {withArgs : Bool} {s s' : Session}

theorem refl (s : Session) : s.Agree withArgs s :=
  ⟨List.forall₂_same.mpr fun m _ => .refl m.builder, rfl, rfl⟩

theorem builderAt? (h : s.Agree withArgs s') (place : Nat) :
    Option.Rel (Builder.Agree withArgs) (s.builderAt? place) (s'.builderAt? place) := by
  have hmember := forall₂_getElem? h.members place
  unfold Session.builderAt?
  generalize s.members[place]? = m at hmember ⊢
  generalize s'.members[place]? = m' at hmember ⊢
  cases hmember with
  | none => exact .none
  | some hbuilder => exact .some hbuilder

theorem named (h : s.Agree withArgs s') (name : String) :
    Option.Rel (Builder.Agree withArgs) ((s.names.get? name).bind s.builderAt?)
      ((s'.names.get? name).bind s'.builderAt?) := by
  rw [h.names_eq]
  cases s.names.get? name with
  | none => exact .none
  | some place => exact h.builderAt? place

theorem contextAt_eq (h : s.Agree withArgs s') (place : Nat) :
    s'.contextAt place = s.contextAt place := by
  have hbuilder := h.builderAt? place
  unfold contextAt
  generalize s.builderAt? place = b at hbuilder ⊢
  generalize s'.builderAt? place = b' at hbuilder ⊢
  cases hbuilder with
  | none => rfl
  | some hbuilder => exact hbuilder.context_eq

theorem find (h : s.Agree withArgs s') (name : String) :
    ResultAlike (Builder.Agree withArgs) (s.find name) (s'.find name) := by
  have hnamed := h.named name
  unfold Session.find
  generalize (s.names.get? name).bind s.builderAt? = b at hnamed ⊢
  generalize (s'.names.get? name).bind s'.builderAt? = b' at hnamed ⊢
  cases hnamed with
  | none => exact .error _
  | some hbuilder => exact .ok hbuilder

theorem resolve (h : s.Agree withArgs s') {req : Request String}
    (hreq : req.isAboutStatement withArgs = true) :
    ResultAlike
      (fun resolved resolved' => Request.Alike (Builder.Agree withArgs) resolved resolved' ∧
        resolved.isAboutStatement withArgs = true)
      (req.resolve s.find) (req.resolve s'.find) := by
  cases req with
  | own operation => exact .ok ⟨.own operation, hreq⟩
  | applyFilter filter =>
    cases filter with
    | none => exact .ok ⟨.applyFilter .none, rfl⟩
    | some name => exact (h.find name).map fun _ _ hother => ⟨.applyFilter (.some hother), rfl⟩
  | addSubQuery name column =>
    exact (h.find name).map fun _ _ hother => ⟨.addSubQuery hother column, rfl⟩
  | compareCollaborators name =>
    exact (h.find name).map fun _ _ hother => ⟨.compareCollaborators hother, rfl⟩

/-- Where a builder stands there may be one that agrees with it, whatever its controller. -/
theorem put (h : s.Agree withArgs s') {place : Nat} {m n : Member}
    (hm : s.members[place]? = some m) (hn : Builder.Agree withArgs m.builder n.builder) :
    s.Agree withArgs (s'.put place n) := by
  have hset := forall₂_set h.members hn place
  rw [set_of_getElem? hm] at hset
  exact ⟨hset, h.names_eq, h.serial_eq⟩

theorem putBack (h : s.Agree withArgs s') {m m' : Member} {w w' : Workbench}
    (hw : Workbench.Alike (Builder.Agree withArgs) w w') (place : Nat) :
    (s.putBack place m w).Agree withArgs (s'.putBack place m' w') :=
  ⟨forall₂_set h.members hw.builder place, h.names_eq, hw.serial_eq⟩

theorem adopt (h : s.Agree withArgs s') {b b' : Builder} (hb : Builder.Agree withArgs b b')
    (place : Nat) (name : String) :
    (Session.adopt place name b s).2.Agree withArgs (Session.adopt place name b' s').2 := by
  refine ⟨List.rel_append h.members (.cons hb .nil), ?_, h.serial_eq⟩
  change s'.names.insert name s'.members.length = s.names.insert name s.members.length
  rw [h.names_eq, h.members.length_eq]

end Agree

section Steps

variable {withArgs : Bool}

/-- Work that goes on in step at builders that agree has the same outcome in both sessions, and the
same is recorded. -/
theorem parallel_workAt {α : Type} {work work' : Work α}
    (h : InStep (Workbench.Alike (Builder.Agree withArgs)) Eq work work') (place : Nat) :
    Parallel withArgs Eq (workAt place work) (workAt place work') := by
  intro s s' hs
  have hmember := forall₂_getElem? hs.members place
  unfold workAt
  generalize s.members[place]? = m at hmember ⊢
  generalize s'.members[place]? = m' at hmember ⊢
  cases hmember with
  | none => exact ⟨rfl, hs⟩
  | @some m m' hbuilder =>
    have hstart : Workbench.Alike (Builder.Agree withArgs) (s.workbench m) (s'.workbench m') :=
      ⟨hbuilder, rfl, hs.serial_eq⟩
    obtain ⟨a, _, w, w', hrun, hrun', rfl, hw⟩ | ⟨e, w, w', hrun, hrun', hw⟩ := h.runs hstart
    · simp only [hrun, hrun']
      exact ⟨by rw [hw.events_eq], hs.putBack hw place⟩
    · simp only [hrun, hrun']
      exact ⟨by rw [hw.events_eq], hs.putBack hw place⟩

theorem parallel_adopt (place : Nat) (name : String) (b : Builder) :
    Parallel withArgs Eq (adopt place name b) (adopt place name b) :=
  fun _ _ hs => ⟨rfl, hs.adopt (.refl b) place name⟩

theorem parallel_request (place : Nat) (name : String) {req : Request String}
    (h : req.isAboutStatement withArgs = true) (result : Option String) :
    Parallel withArgs (Answer.Agree withArgs) (request place name req result)
      (request place name req result) := by
  refine .get_bind fun s s' hs => ?_
  have hresolve := hs.resolve h
  generalize req.resolve s.find = resolved at hresolve ⊢
  generalize req.resolve s'.find = resolved' at hresolve ⊢
  cases hresolve with
  | error e => exact .pure (.intro _ _ (hs.builderAt? place) .none)
  | ok hrequest =>
    obtain ⟨halike, hstatement⟩ := hrequest
    refine (parallel_workAt (inStep_statement_request halike hstatement) place).andThen ?_
    rintro (_ | ⟨outcome, events⟩)
    · exact .pure (.intro _ _ .none .none)
    · refine .get_bind fun t t' ht => ?_
      have hanswer : Answer.Agree withArgs ⟨outcome, events, t.builderAt? place, none⟩
          ⟨outcome, events, t'.builderAt? place, none⟩ :=
        .intro _ _ (ht.builderAt? place) .none
      split
      · exact (parallel_adopt place _ _).andThen fun _ => .pure hanswer
      · exact .pure hanswer

theorem parallel_block (place : Nat) (name : String) {bracket : Bracket}
    (henter : InStep (Workbench.Alike (Builder.Agree withArgs)) Eq bracket.enter bracket.enter)
    (hleave : ∀ failure, InStep (Workbench.Alike (Builder.Agree withArgs)) Eq
      (bracket.leave failure) (bracket.leave failure))
    {body : StateM Session (List Answer × Option Failure)}
    (hbody : Parallel withArgs (fun a a' => List.Forall₂ (Answer.Agree withArgs) a.1 a'.1 ∧
      a.2 = a'.2) body body) :
    Parallel withArgs (Answer.Agree withArgs) (block place name bracket body)
      (block place name bracket body) := by
  refine (parallel_workAt henter place).andThen ?_
  rintro (_ | ⟨e | _, entering⟩)
  · exact .pure (.intro _ _ .none (.some .nil))
  · exact .get_bind fun t t' ht => .pure (.intro _ _ (ht.builderAt? place) (.some .nil))
  · refine hbody.bind ?_
    rintro ⟨inner, failure⟩ ⟨inner', _⟩ ⟨hinner, rfl⟩
    refine (parallel_workAt (hleave failure) place).andThen ?_
    rintro (_ | ⟨left, leaving⟩)
    · exact .pure (.intro _ _ .none (.some hinner))
    · exact .get_bind fun t t' ht => .pure (.intro _ _ (ht.builderAt? place) (.some hinner))

end Steps

end Session

namespace Step

open Session

variable {withArgs : Bool}

theorem inStep_startWhere :
    InStep (Workbench.Alike (Builder.Agree withArgs)) Eq
      (Workbench.modifyBuilder Builder.startWhere) (Workbench.modifyBuilder Builder.startWhere) :=
  .modifyBuilder fun _ _ hb => hb.startWhere

theorem inStep_restore (before : Context) :
    InStep (Workbench.Alike (Builder.Agree withArgs)) Eq
      (Workbench.modifyBuilder fun b => { b with context := before })
      (Workbench.modifyBuilder fun b => { b with context := before }) :=
  .modifyBuilder fun _ _ hb => hb.rewriting hb.text_eq rfl

mutual

/-- A step about statements is answered alike in sessions that agree. -/
theorem parallel_run (step : Step) (h : step.isAboutStatements withArgs = true) :
    Parallel withArgs (Answer.Agree withArgs) (run step) (run step) := by
  match step with
  | ask name req result =>
    rw [run]
    refine .get_bind fun s s' hs => ?_
    rw [hs.names_eq]
    cases s.names.get? name with
    | none => exact .pure (.intro _ _ .none .none)
    | some place => exact parallel_request place name h result
  | fail name failure =>
    rw [run]
    exact .get_bind fun s s' hs => .pure (.intro _ _ (hs.named name) .none)
  | transaction name body => cases h
  | whereClause name body =>
    rw [run]
    refine .get_bind fun s s' hs => ?_
    rw [hs.names_eq]
    cases s.names.get? name with
    | none => exact .pure (.intro _ _ .none (.some .nil))
    | some place =>
      dsimp only
      rw [← contextAt, ← contextAt, hs.contextAt_eq]
      exact parallel_block place name inStep_startWhere (fun _ => inStep_restore _)
        (parallel_runUntilFailure body h)

theorem parallel_runUntilFailure (steps : List Step)
    (h : areAboutStatements withArgs steps = true) :
    Parallel withArgs
      (fun a a' => List.Forall₂ (Answer.Agree withArgs) a.1 a'.1 ∧ a.2 = a'.2)
      (runUntilFailure steps) (runUntilFailure steps) := by
  match steps with
  | [] =>
    rw [runUntilFailure]
    exact .pure ⟨.nil, rfl⟩
  | step :: rest =>
    obtain ⟨hstep, hrest⟩ := Bool.and_eq_true_iff.mp h
    rw [runUntilFailure]
    refine (parallel_run step hstep).bind ?_
    rintro answer answer' hanswer
    have houtcome : answer.outcome = answer'.outcome := by
      cases hanswer
      rfl
    dsimp only
    rw [houtcome]
    cases answer'.outcome with
    | error e => exact .pure ⟨.cons hanswer .nil, rfl⟩
    | ok reply =>
      refine (parallel_runUntilFailure rest hrest).bind ?_
      rintro ⟨answers, failure⟩ ⟨answers', _⟩ ⟨hanswers, rfl⟩
      exact .pure ⟨.cons hanswer hanswers, rfl⟩

end

theorem parallel_runAll {steps : List Step} (h : areAboutStatements withArgs steps = true) :
    Parallel withArgs (List.Forall₂ (Answer.Agree withArgs)) (runAll steps) (runAll steps) := by
  induction steps with
  | nil => exact .pure .nil
  | cons step rest ih =>
    obtain ⟨hstep, hrest⟩ := Bool.and_eq_true_iff.mp h
    refine (parallel_run step hstep).bind fun _ _ hanswer => ?_
    exact (ih hrest).bind fun _ _ hanswers => .pure (.cons hanswer hanswers)

theorem run_ask_clone {s : Session} {name : String} {place : Nat} {m : Member}
    (hname : s.names.get? name = some place) (hm : s.members[place]? = some m) (copy : String) :
    let after := (run (ask name (.own .clone) (some copy)) s).2
    after.members = s.members ++ [⟨m.builder.clone, m.controller⟩] ∧
      after.names = s.names.insert copy s.members.length := by
  intro after
  have hrun : Request.run (.own .clone) (s.workbench m) =
      .ok (.derived m.builder.clone) (s.workbench m) := rfl
  have hafter : after =
      (adopt place copy m.builder.clone (s.putBack place m (s.workbench m))).2 := by
    unfold after
    rw [run_ask hname, request]
    simp only [bind, StateT.bind, get, getThe, MonadStateOf.get, StateT.get, pure, Request.resolve,
      workAt_of_ok hm hrun]
    rfl
  -- The original is put back as it was.
  have hmembers : (s.putBack place m (s.workbench m)).members = s.members := set_of_getElem? hm
  rw [hafter, adopt]
  change (_ ++ [_] = _ ++ [_]) ∧ s.names.insert copy _ = _
  rw [hmembers, hm]
  exact ⟨rfl, rfl⟩

theorem run_ask_reset {s : Session} {name : String} {place : Nat} {m : Member}
    (hname : s.names.get? name = some place) (hm : s.members[place]? = some m) :
    (run (ask name (.own .reset) none) s).2.members =
      s.members.set place { m with builder := m.builder.reset } := by
  have hresolved : (Request.own .reset).resolve s.find = .ok (.own .reset) := rfl
  obtain ⟨-, hafter⟩ := request_of_itself name hm hresolved rfl none
  rw [run_ask hname, hafter]
  rfl

end Step

/-- After a copy has been put last in a session, steps about statements are answered as if copy and
original had changed places. -/
structure Session.StandsIn (s after : Session) (copy : String) (place : Nat) (m : Member) :
    Prop where
  members_eq : after.members = s.members ++ [⟨m.builder.clone, m.controller⟩]
  name_eq : after.names.get? copy = some s.members.length
  answered_alike : ∀ steps, Step.areAboutStatements false steps = true →
    List.Forall₂ (Answer.Agree false) (Step.runAll steps after).1
      (Step.runAll steps
        ((after.put place ⟨m.builder.clone, m.controller⟩).put s.members.length m)).1

def Builder.likeNew (b : Builder) : Builder :=
  (Configuration.mk b.dialect b.dataSource b.sanitizer).builder

/-- After a builder has been reset, all steps about statements are answered as if it were new, and
had any controller. -/
def Session.StandsAsNew (after : Session) (place : Nat) (m : Member) : Prop :=
  ∀ controller steps, Step.areAboutStatements true steps = true →
    List.Forall₂ (Answer.Agree true) (Step.runAll steps after).1
      (Step.runAll steps (after.put place ⟨m.builder.likeNew, controller⟩)).1

/-- What builders do depends on their statements alone: requests, parsing, rendering and whole runs
of steps come to the same for builders that agree. -/
structure StatementsDecide : Prop where
  requests : ∀ (withArgs : Bool) (request request' : Request Builder),
    Request.Alike (Builder.Agree withArgs) request request' →
    request.isAboutStatement withArgs = true →
      InStep (Workbench.Alike (Builder.Agree withArgs)) Eq request.run request'.run
  parsing : ∀ (ε : Type) (parser : SqlParser ε) (withArgs : Bool) (b b' : Builder),
    Builder.Agree withArgs b b' →
      (∃ e, Builder.expression parser b = .ok e b ∧ Builder.expression parser b' = .ok e b') ∨
        ∃ d, Builder.expression parser b = .error d b ∧ Builder.expression parser b' = .error d b'
  rendering : ∀ w w' : Workbench, Workbench.Alike (Builder.Agree false) w w' →
    EndAlike (Workbench.Alike (Builder.Agree true)) Eq (Operation.render.run w)
      (Operation.render.run w')
  runs : ∀ (withArgs : Bool) (s s' : Session) (steps : List Step), s.Agree withArgs s' →
    Step.areAboutStatements withArgs steps = true →
      List.Forall₂ (Answer.Agree withArgs) (Step.runAll steps s).1 (Step.runAll steps s').1 ∧
        (Step.runAll steps s).2.Agree withArgs (Step.runAll steps s').2
  copies : ∀ (s : Session) (name copy : String) (place : Nat) (m : Member),
    s.names.get? name = some place → s.members[place]? = some m →
      s.StandsIn (Step.run (.ask name (.own .clone) (some copy)) s).2 copy place m
  resets : ∀ (s : Session) (name : String) (place : Nat) (m : Member),
    s.names.get? name = some place → s.members[place]? = some m →
      (Step.run (.ask name (.own .reset) none) s).2.StandsAsNew place m

theorem Step.standsIn_ask_clone {s : Session} {name : String} {place : Nat} {m : Member}
    (hname : s.names.get? name = some place) (hm : s.members[place]? = some m) (copy : String) :
    s.StandsIn (run (.ask name (.own .clone) (some copy)) s).2 copy place m := by
  obtain ⟨hmembers, hnames⟩ := run_ask_clone hname hm copy
  have hplace : place < s.members.length := (List.getElem?_eq_some_iff.mp hm).1
  generalize (run (.ask name (.own .clone) (some copy)) s).2 = after at hmembers hnames
  have horiginal : after.members[place]? = some m := by
    rw [hmembers, List.getElem?_append_left hplace, hm]
  have hcopy : after.members[s.members.length]? = some ⟨m.builder.clone, m.controller⟩ := by
    rw [hmembers, List.getElem?_concat_length]
  have hagree : after.Agree false
      ((after.put place ⟨m.builder.clone, m.controller⟩).put s.members.length m) :=
    ((Session.Agree.refl after).put horiginal (.clone m.builder)).put hcopy
      (Builder.Agree.clone m.builder).symm
  exact ⟨hmembers, by rw [hnames, Table.get?_insert_self],
    fun steps hsteps => (parallel_runAll hsteps _ _ hagree).1⟩

theorem Step.standsAsNew_ask_reset {s : Session} {name : String} {place : Nat} {m : Member}
    (hname : s.names.get? name = some place) (hm : s.members[place]? = some m) :
    (run (.ask name (.own .reset) none) s).2.StandsAsNew place m := by
  intro controller steps hsteps
  have hmembers := run_ask_reset hname hm
  generalize (run (.ask name (.own .reset) none) s).2 = after at hmembers
  have hreset : after.members[place]? = some { m with builder := m.builder.reset } := by
    rw [hmembers]
    exact List.getElem?_set_self (List.getElem?_eq_some_iff.mp hm).1
  have hagree : after.Agree true (after.put place ⟨m.builder.likeNew, controller⟩) :=
    (Session.Agree.refl after).put hreset (Builder.Agree.reset_new m.builder)
  exact (parallel_runAll hsteps _ _ hagree).1

/-- How deeply transactions are nested, who owns them and what was rendered last do not show in what
a builder does. Whatever is asked of two builders that agree is answered alike and leaves them in
agreement, and once rendered they have the same arguments. So through any steps a copy and its
original can stand in for each other, and a new builder can stand in for one that was reset. -/
theorem transactions_and_renderings_do_not_show : StatementsDecide where
  requests _ _ _ := inStep_statement_request
  parsing _ parser _ _ _ h := h.expression parser
  rendering _ _ := endAlike_render
  runs _ s s' _ hs hsteps := Step.parallel_runAll hsteps s s' hs
  copies _ _ copy _ _ hname hm := Step.standsIn_ask_clone hname hm copy
  resets _ _ _ _ hname hm := Step.standsAsNew_ask_reset hname hm

/-- The original has been rendered inside a transaction. Then it is asked about its copy and about
itself, or is reset. -/
theorem transactions_and_renderings_do_not_show_of_rendered_original :
    let b : Builder :=
      { dialect := Database.mySql.dialect, depth := 2, text := "SELECT * FROM t WHERE id = :id"
        params := .ofList [("id", .int 1)], args := [.int 7] }
    let m : Member := ⟨b, some 0⟩
    let s : Session :=
      { members := [m], controllers := [{ isOpen := true, isLive := true }]
        names := .ofList [("a", 0)] }
    let copied := (Step.run (.ask "a" (.own .clone) (some "copy")) s).2
    let emptied := (Step.run (.ask "a" (.own .reset) none) s).2
    let merges : List Step :=
      [.ask "a" (.addSubQuery "copy" "other") none, .ask "copy" (.applyFilter (some "a")) none,
        .whereClause "a" [.ask "a" (.own (.mustAdd "id" "id")) none, .abandon "a" "enough"],
        .ask "a" (.applyFilter (some "a")) none, .ask "copy" (.own .render) none]
    let looks : List Step := [.ask "a" (.own .args) none, .ask "a" (.own (.param "id")) none]
    s.names.get? "a" = some 0 ∧ s.members[0]? = some m ∧
      Step.areAboutStatements false merges = true ∧ Step.areAboutStatements true looks = true ∧
      List.Forall₂ (Answer.Agree false) (Step.runAll merges copied).1
        (Step.runAll merges ((copied.put 0 ⟨b.clone, some 0⟩).put 1 m)).1 ∧
      List.Forall₂ (Answer.Agree true) (Step.runAll looks emptied).1
        (Step.runAll looks (emptied.put 0 ⟨{ dialect := Database.mySql.dialect }, none⟩)).1 := by
  intro b m s copied emptied merges looks
  have hname : s.names.get? "a" = some 0 := rfl
  have hm : s.members[0]? = some m := rfl
  have hmerges : Step.areAboutStatements false merges = true := rfl
  have hlooks : Step.areAboutStatements true looks = true := rfl
  have h : StatementsDecide := transactions_and_renderings_do_not_show
  exact ⟨hname, hm, hmerges, hlooks,
    (h.copies s "a" "copy" 0 m hname hm).answered_alike merges hmerges,
    h.resets s "a" 0 m hname hm none looks hlooks⟩

end ParamSql
