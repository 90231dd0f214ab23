import MarkupCatalog.Proofs.Collection.Protocol
import MarkupCatalog.Proofs.Collection.Records
import MarkupCatalog.Proofs.Json.Grammar
import MarkupCatalog.Proofs.Log.Trace
import MarkupCatalog.Proofs.Writer.Integrity

/-!
# Collections that are broken off

A collection fails early if the files cannot be looked for or if the parser fails at one of them.
In the first case nothing was begun: there is no writer, and of the file system only the log is
touched.  In the second case the main line has handed over the records of the files before, and
asks the writer to give up.  As the writer takes the chunks in their order, and what it is asked
last comes last, it has written all of them when it ends; the file holds an array that is not
closed, which no reader takes for a document.

* `plan_of_failure`: what the plan comes to up to the failure of the parser.
* `Moves.stops`: the main line stops at this very place, however the writer takes its turns.
* `Moves.filed`: what the file holds goes with the chunks that were handed over.
-/

namespace MarkupCatalog.Collection

open Writer

/-! ## Plans up to a failure of the parser -/

/-- The blocks that a parser finds in files, from the one with number `index` on, each with the
file that it was found in. -/
def Parser.blocksOf (parser : Parser) (index : Nat) :
    Scan.Registry → Except Failure (List (Path × Annotation.Block))
  | [] => .ok []
  | (source, text) :: rest => do
      let blocks ← parser index text
      let others ← parser.blocksOf (index + 1) rest
      return blocks.map (source, ·) ++ others

/-- The records of blocks, numbered from `ordinal` on. -/
def numbered (template : Template) (ordinal : Nat) (found : List (Path × Annotation.Block)) :
    List Record :=
  found.mapIdx fun i f => .ofBlock template f.1 (ordinal + i) f.2

/-- An array of records without its closing bracket. -/
def openText (mode : SerializeMode) (records : List Record) : Text :=
  "[" ++ Text.joinWith "," (records.map fun r => (r.written mode).compact)

theorem map_ordinal_numbered (template : Template) (ordinal : Nat)
    (found : List (Path × Annotation.Block)) :
    (numbered template ordinal found).map (·.ordinal) =
      List.range' ordinal (numbered template ordinal found).length := by
  refine List.ext_getElem (by simp) fun i hi hi' => ?_
  simp [numbered, Record.ofBlock]

variable {parser : Parser} {registry before : Scan.Registry} {text : Text}
  {found : List (Path × Annotation.Block)} {f : Failure} {index : Nat}

/-- **What is done with the files** up to the one at which the parser fails. -/
theorem assemble_of_failure (s : Settings) (ordinal : Nat) (source : Path) (after : Scan.Registry)
    (hfound : parser.blocksOf index before = .ok found)
    (hfail : parser (index + before.length) text = .error f) :
    ∃ body, assemble s parser index ordinal (before ++ (source, text) :: after) =
        body ++ [.fail f] ∧
      (∀ a ∈ body, a.isAssembly = true) ∧
      Yields body ((numbered s.template ordinal found).flatMap (piece s.mode))
        (numbered s.template ordinal found) := by
  induction before generalizing index ordinal found with
  | nil =>
      cases hfound
      rw [List.length_nil, Nat.add_zero] at hfail
      refine ⟨[], ?_, List.forall_mem_nil _, rfl, rfl⟩
      rw [List.nil_append, assemble, hfail]
      rfl
  | cons entry before ih =>
      obtain ⟨path, page⟩ := entry
      rw [Parser.blocksOf] at hfound
      rcases hblocks : parser index page with g | blocks
      · simp [hblocks, bind, Except.bind] at hfound
      · rcases hothers : Parser.blocksOf parser (index + 1) before with g | others
        · simp [hblocks, hothers, bind, Except.bind] at hfound
        · have hfound' : found = blocks.map (path, ·) ++ others := by
            simpa [hblocks, hothers, bind, Except.bind, pure, Except.pure] using hfound.symm
          rw [List.length_cons, Nat.add_comm before.length, ← Nat.add_assoc] at hfail
          obtain ⟨body, hbody, hassembly, hyields⟩ := ih (ordinal + blocks.length) hothers hfail
          have hnumbered : numbered s.template ordinal found =
              recordsOf s.template path ordinal blocks ++
                numbered s.template (ordinal + blocks.length) others := by
            rw [hfound', numbered, List.mapIdx_append, List.length_map, recordsOf_eq_mapIdx,
              numbered]
            simp only [Nat.add_comm _ blocks.length, Nat.add_assoc, Nat.add_left_comm]
          refine ⟨keepFile s path ordinal blocks ++ body, ?_, ?_, ?_⟩
          · rw [List.cons_append, assemble, hblocks]
            simp only
            rw [hbody, List.append_assoc]
          · intro a ha
            exact (List.mem_append.mp ha).elim isAssembly_of_mem_keepFile (hassembly a)
          · rw [hnumbered, List.flatMap_append]
            exact (yields_keepFile s path ordinal blocks).append hyields

/-- **What a plan comes to** if the parser fails at a file: the records of the files before it,
as an array that is not closed. -/
theorem plan_of_failure (s : Settings) (source : Path) (after : Scan.Registry)
    (hfound : parser.blocksOf 0 before = .ok found) (hfail : parser before.length text = .error f) :
    ∃ body, IsPlan (plan s parser (before ++ (source, text) :: after)) body [.fail f] ∧
      Yields body (openText s.mode (numbered s.template 0 found))
        (numbered s.template 0 found) := by
  rw [← Nat.zero_add before.length] at hfail
  obtain ⟨body, hbody, hassembly, hyields⟩ :=
    assemble_of_failure s 0 source after hfound hfail
  refine ⟨.write "[" :: body, ⟨?_, ?_, Or.inr ⟨f, rfl⟩⟩, ?_⟩
  · rw [plan, hbody, List.cons_append]
  · exact List.forall_mem_cons.mpr ⟨rfl, hassembly⟩
  · have hopening : Yields [.write "["] "[" [] := ⟨by simp [Action.chunks], rfl⟩
    have hall := hopening.append hyields
    rw [flatMap_piece (map_ordinal_numbered s.template 0 found)] at hall
    exact hall

/-! ## Where the main line stops -/

variable {io : OutputFile.Operations} {callback : Option Callback} {c : Collector} {path : Path}
  {shared : Shared} {acted body : List Action} {made : List Writer.Call} {p : Progress}

/-- **What a run keeps.**  The main line has something left to do, or it has stopped at the very
place at which it gives up. -/
theorem Moves.stops (hstart : shared.collected = [])
    (hplan : IsPlan (plan c.settings c.parser registry) body [.fail f])
    (h : Moves io callback (c.begin shared registry) acted made p) :
    p.failure = none ∧ p.agenda ≠ [] ∨ p.failure = some f ∧ acted = body := by
  induction h with
  | refl =>
      left
      refine ⟨rfl, ?_⟩
      rw [Collector.begin, hplan.split]
      simp
  | @act acted _ _ _ a agenda hmoves hact _ =>
      left
      refine ⟨rfl, ?_⟩
      rintro rfl
      have hsplit : acted ++ [a] = body ++ [.fail f] :=
        ((hmoves.mainLine hstart).split rfl).trans hplan.split
      obtain ⟨_, hlast⟩ := List.append_inj' hsplit rfl
      cases hlast
      cases hact
  | @fail acted _ _ _ a agenda g hmoves hact _ =>
      right
      have hmain := hmoves.mainLine hstart
      have hsplit : acted ++ a :: agenda = body ++ [.fail f] := (hmain.split rfl).trans hplan.split
      rcases hmain.cause hplan (State.fails_of_act hact).1 with ⟨_, rfl⟩ | ⟨_, _, hacted⟩
      · have hbody : Action.fail g ∉ body := fun hmem => by cases hplan.assembly _ hmem
        obtain ⟨rfl, hsame, _⟩ :=
          (List.append_cons_inj_of_notMem hbody List.not_mem_nil).mp hsplit.symm
        cases hsame
        exact ⟨rfl, rfl⟩
      · obtain ⟨_, hlast⟩ := List.append_inj' (hacted.trans hplan.split) rfl
        cases hlast
  | work _ _ ih => exact ih

/-! ## What the file holds -/

variable {logger : Log.Logger} {w v : Writer} {s t : Shared}

/-- The file holds the chunks that were handed over, once it is open and unless an operation has
failed. -/
def Filed (path : Path) (logger : Log.Logger) (made : List Writer.Call) (w : Writer) (s : Shared) :
    Prop :=
  match w.stage with
  | .opening => handed made = []
  | .writing | .flushing | .finishing | .closing | .announcing | .aborting =>
      s.Holds path logger (handed made).flatten
  | .done => w.error.isSome = true ∨ s.Holds path logger (handed made).flatten
  | .recovering _ | .reporting _ | .dead _ => True

theorem filed_after {next : Failure → Stage}
    (hnext : ∀ g, next g = .recovering g ∨ next g = .reporting g)
    (hstage : v.stage = .after f next) : Filed path logger made v s := by
  unfold Filed
  rw [hstage, Stage.after]
  by_cases hf : f.isSystem = true
  · rw [if_pos hf]
    rcases hnext f with hn | hn <;> rw [hn] <;> trivial
  · rw [if_neg hf]
    trivial

/-- **What a step of the writer keeps.** -/
theorem filed_reaction {new : List Writer.Call}
    (h : Reaction (Shared.around (OutputFile.operations path) callback) w s new v t)
    (hlogger : s.journal.logger = logger) (hw : Filed path logger made w s) :
    Filed path logger (made ++ new) v t := by
  unfold Filed at hw
  have hsame (call : Writer.Call) (hcall : call.chunk? = none) :
      handed (made ++ [call]) = handed made := by
    simp [handed, hcall]
  cases h with
  | opened hstage hcall =>
      rw [hstage] at hw
      show t.Holds path logger _
      rw [hsame _ rfl, hw]
      exact Shared.holds_onFile hlogger hcall fun g hopen => OutputFile.holds_openFile hopen
  | @wrote _ chunk _ hstage _ hcall =>
      rw [hstage] at hw
      have hhanded : (handed (made ++ [.write chunk none])).flatten =
          (handed made).flatten ++ chunk := by
        simp [handed, Call.chunk?]
      unfold Filed
      simp only [hstage, hhanded]
      exact Shared.holds_onFile hlogger hcall fun g hwrite => hw.2.write hwrite
  | ended hstage _ | givenUp hstage _ =>
      rw [hstage] at hw
      rw [List.append_nil]
      exact hw
  | flushed hstage hcall =>
      rw [hstage] at hw
      show t.Holds path logger _
      rw [hsame _ rfl]
      exact Shared.holds_onFile hlogger hcall fun g hflush => hw.2.flush hflush
  | finished hstage hcall =>
      rw [hstage] at hw
      cases hcall
      show Shared.Holds path logger _ _
      rw [hsame _ rfl]
      exact hw.completeSafely callback
  | closed hstage hcall =>
      rw [hstage] at hw
      show Shared.Holds path logger _ _
      rw [hsame _ rfl]
      exact (Shared.holds_onFile hlogger hcall fun g hclose => hw.2.close hclose).note _
  | announced hstage hcall =>
      rw [hstage] at hw
      cases hcall
      right
      rw [hsame _ rfl]
      exact hw.congr rfl rfl
  | abandoned hstage hcall =>
      rw [hstage] at hw
      right
      rw [hsame _ rfl]
      exact (Shared.holds_onFile hlogger hcall fun g hclose => hw.2.close hclose).note _
  | notOpened _ _ => exact filed_after (fun g => Or.inr rfl) rfl
  | notWritten _ _ _ | notFlushed _ _ | notAbandoned _ _ =>
      exact filed_after (fun g => Or.inl rfl) rfl
  | reported _ _ => exact Or.inl rfl
  | finishRaised _ _ | notClosed _ _ | closeRaised _ _ | recovered _ _ | notRecovered _ _
  | errorRaised _ _ => trivial

/-- **What an action keeps.** -/
theorem filed_act (h : Filed path logger made w s) (a : Action) (hstage : v.stage = w.stage)
    (herror : v.error = w.error) : Filed path logger made v (s.after a) := by
  unfold Filed at h ⊢
  rw [hstage, herror]
  cases hw : w.stage with
  | opening =>
      rw [hw] at h
      exact h
  | writing | flushing | finishing | closing | announcing | aborting =>
      rw [hw] at h
      exact h.after a
  | done =>
      rw [hw] at h
      exact h.imp_right (·.after a)
  | recovering _ | reporting _ | dead _ => trivial

/-- **What a run keeps.**  Of what the main line has asked, the writer has handed over the first
chunks to the file, and the file holds them. -/
theorem Moves.filed (houtput : c.settings.output = some path)
    (hstart : shared.journal.logger = logger)
    (h : Moves (OutputFile.operations path) callback (c.begin shared registry) acted made p) :
    ∃ w, p.state.writer = some w ∧ HandedOver (sent acted p.failure) made w ∧
      Filed path logger made w p.state.shared := by
  have hpersists : Persists (OutputFile.operations path) callback (c.begin shared registry)
      fun acted made _ failure s w => HandedOver (sent acted failure) made w ∧
        s.journal.logger = logger ∧ Filed path logger made w s := by
    refine ⟨?_, ?_, ?_⟩
    · rintro acted made a agenda s w v - ⟨hhanded, hlogger, hfiled⟩ hqueue hstage herror
      have hsent : sent (acted ++ [a]) none = sent acted none ++ a.messages := by
        simp [sent]
      rw [hsent]
      exact ⟨hhanded.ask hqueue hstage herror, (s.after_kept a).2.2.trans hlogger,
        filed_act hfiled a hstage herror⟩
    · rintro acted made a agenda s w f ⟨hhanded, hlogger, hfiled⟩
      have hsent : sent acted (some f) = sent acted none ++ [.abort] := by
        simp [sent]
      rw [hsent]
      exact ⟨hhanded.ask rfl rfl rfl, hlogger, hfiled⟩
    · rintro acted made agenda failure s w v t - ⟨hhanded, hlogger, hfiled⟩ hstep
      have hreaction := step_reaction hstep
      exact ⟨hreaction.handedOver hhanded,
        (Shared.untouched_reaction hreaction).logger.trans hlogger,
        filed_reaction hreaction hlogger hfiled⟩
  obtain ⟨w, hwriter, hhanded, _, hfiled⟩ :=
    hpersists.holds houtput h ⟨⟨[], rfl, rfl⟩, hstart, rfl⟩
  exact ⟨w, hwriter, hhanded, hfiled⟩

/-- **A run that was broken off.**  When it has come to rest, the writer has ended; and if no
operation has failed, the file holds all that was handed over up to the place at which the main
line has stopped. -/
theorem Moves.broken_off {state : State} {failure : Option Failure}
    (houtput : c.settings.output = some path)
    (hstart : shared.collected = [] ∧ shared.journal.logger = logger)
    (hplan : IsPlan (plan c.settings c.parser registry) body [.fail f])
    (h : Moves (OutputFile.operations path) callback (c.begin shared registry) acted made
      ⟨state, [], failure⟩)
    (hidle : state.IsIdle (OutputFile.operations path) callback) :
    ∃ w, state.writer = some w ∧ w.hasEnded = true ∧
      (w.deathCause = none → w.error = none →
        state.shared.Holds path logger (body.flatMap Action.chunks).flatten) := by
  obtain ⟨w, hwriter, hhanded, hfiled⟩ := h.filed houtput hstart.2
  obtain ⟨rfl, rfl⟩ : failure = some f ∧ acted = body := by
    rcases h.stops hstart.1 hplan with ⟨_, hagenda⟩ | hstopped
    · exact absurd rfl hagenda
    · exact hstopped
  have hfinish : Action.finish ∉ acted := fun hmem => by cases hplan.assembly _ hmem
  have hsent : sent acted (some f) = (acted.flatMap Action.chunks).map .chunk ++ [.abort] := by
    rw [sent, messages_eq_chunks hfinish]
    rfl
  rw [hsent] at hhanded
  have hended : w.hasEnded = true := by
    rcases hasEnded_of_step_eq_none (hidle w hwriter) with hended | ⟨hstage, hqueue⟩
    · exact hended
    · -- a writer that waits for a message has taken the last one, by which it gives up
      obtain ⟨rest, hrest, hleaves⟩ := hhanded
      unfold Leaves at hleaves
      simp only [hstage, hqueue] at hleaves
      obtain ⟨_, hnone⟩ := eq_of_chunks (by simp) (by simp [hleaves]) hrest
      cases hnone.trans hleaves
  refine ⟨w, hwriter, hended, ?_⟩
  intro hdeath herror
  have hdone : w.stage = .done := by
    unfold hasEnded at hended
    unfold deathCause at hdeath
    split at hended
    · assumption
    · next hdead =>
      rw [hdead] at hdeath
      cases hdeath
    · cases hended
  unfold Filed at hfiled
  simp only [hdone, herror, Option.isSome_none, Bool.false_eq_true, false_or] at hfiled
  rcases hhanded.eq_of_done hdone herror with hasked | hasked
  · obtain ⟨_, hlast⟩ := eq_of_chunks (by simp) (by simp) hasked
    cases hlast
  · obtain ⟨hchunks, _⟩ := eq_of_chunks (by simp) (by simp) hasked
    rw [hchunks]
    exact hfiled

/-! ## The callback -/

/-- Only the last action of a plan calls the callback. -/
theorem State.act_completions_of_ne_finish {state state' : State} {failure : Option Failure}
    {a : Action} (h : state.act callback a = (state', failure)) (ha : a ≠ .finish) :
    state'.shared.completions = state.shared.completions := by
  cases a with
  | finish => exact absurd rfl ha
  | note r | fail g | endChannel =>
      cases h
      rfl
  | write chunk =>
      obtain ⟨shared, _ | w⟩ := state
      · cases h
        rfl
      · simp only [State.act, State.request] at h
        split at h <;> cases h <;> rfl
  | keep r =>
      simp only [State.act] at h
      split at h <;> cases h <;> rfl

/-- **A plan that gives up never calls the callback,** be there a writer or not. -/
theorem Moves.completions_eq_nil (hstart : shared.collected = [] ∧ shared.completions = [])
    (hplan : IsPlan (plan c.settings c.parser registry) body [.fail f])
    (h : Moves io callback (c.begin shared registry) acted made p) :
    p.state.shared.completions = [] := by
  cases houtput : c.settings.output with
  | some path =>
      rcases h.told houtput hstart.1 with hnot | ⟨hall, _⟩
      · exact (h.idle_of_unfinished houtput hstart hnot).1
      · -- who has done everything has not given up
        rcases h.stops hstart.1 hplan with ⟨_, hagenda⟩ | ⟨hfailed, _⟩
        · exact absurd hall.agenda_eq hagenda
        · cases hfailed.symm.trans hall.failure_eq
  | none =>
      have hne {acted made state a agenda} (hmoves : Moves io callback (c.begin shared registry)
          acted made ⟨state, a :: agenda, none⟩) : a ≠ .finish := by
        rintro rfl
        have hmem : Action.finish ∈ body ++ [.fail f] := by
          rw [← hplan.split, ← (hmoves.mainLine hstart.1).split rfl]
          exact List.mem_append_right acted List.mem_cons_self
        rcases List.mem_append.mp hmem with hbody | hlast
        · cases hplan.assembly _ hbody
        · cases List.mem_singleton.mp hlast
      induction h with
      | refl => exact hstart.2
      | act hmoves hact ih =>
          exact (State.act_completions_of_ne_finish hact (hne hmoves)).trans ih
      | @fail _ _ _ state' _ _ _ hmoves hact ih =>
          have hsame : (state'.request .abort).1.shared = state'.shared := by
            obtain ⟨_, _ | _⟩ := state' <;> rfl
          show (state'.request .abort).1.shared.completions = []
          rw [hsame]
          exact (State.act_completions_of_ne_finish hact (hne hmoves)).trans ih
      | work hmoves _ _ =>
          have hwriter := (hmoves.mainLine hstart.1).hasWriter
          rw [houtput] at hwriter
          cases hwriter

end MarkupCatalog.Collection

namespace MarkupCatalog.Collector

open Collection

variable {c : Collector} {fs : FileSystem} {account : Account} {journal : Log.Journal}
  {o : Outcome} {f : Failure}

/-- What is shared when a collection has noted that it begins. -/
def begun (c : Collector) (fs : FileSystem) (journal : Log.Journal) : Shared :=
  Shared.note (Collection.note .info ("Collecting components under " ++ c.settings.root.text))
    { file := { fs }, journal }

/-- What a collection comes to if the files cannot be looked for. -/
theorem runs_iff_of_scan_error {log : List Log.Record}
    (hscan : c.scanner.scan (c.systemAtScan fs journal) account c.settings.root.text =
      (log, .error f)) :
    c.Runs fs account journal o ↔ o = ⟨⟨(c.begun fs journal).noteAll log, none⟩, some f⟩ := by
  have hscan' : c.scanner.scan (c.begun fs journal).file.fs account c.settings.root.text =
      (log, .error f) := hscan
  unfold begun at hscan'
  simp only [Runs, hscan']
  rfl

/-- What a collection comes to if the files are known. -/
theorem runs_iff_of_scan_ok {log : List Log.Record} {registry : Scan.Registry}
    (hscan : c.scanner.scan (c.systemAtScan fs journal) account c.settings.root.text =
      (log, .ok registry)) :
    c.Runs fs account journal o ↔ ∃ acted made,
      Moves c.fileOperations c.settings.onComplete
        (c.begin (afterScan (c.begun fs journal) log registry) registry) acted made
        ⟨o.state, [], o.failure⟩ ∧
      o.state.IsIdle c.fileOperations c.settings.onComplete := by
  have hscan' : c.scanner.scan (c.begun fs journal).file.fs account c.settings.root.text =
      (log, .ok registry) := hscan
  unfold begun at hscan'
  simp only [Runs, hscan']
  rfl

/-- What a collection has come to that has failed before it knew the files. -/
structure NotBegun (fs : FileSystem) (journal : Log.Journal) (f : Failure) (o : Outcome) :
    Prop where
  failure : o.failure = some f
  completions : o.state.shared.completions = []
  /-- There is no writer that could make or empty a file. -/
  writer : o.state.writer = none
  onlyLogs : journal.logger.OnlyLogs fs o.state.shared.file.fs
  unchanged : (∀ place, ¬ journal.logger.WritesTo place) → o.state.shared.file.fs = fs

/-- What a collection has come to whose parser has failed after these records. -/
structure BrokenOff (c : Collector) (journal : Log.Journal) (f : Failure) (records : List Record)
    (o : Outcome) : Prop where
  failure : o.failure = some f
  completions : o.state.shared.completions = []
  kept : o.state.shared.channel.records = records
  /-- The writer has ended.  If no operation has failed, the file holds the array up to the last
  record. -/
  file : ∀ path, c.settings.output = some path →
    ∃ w, o.state.writer = some w ∧ w.hasEnded = true ∧
      (w.deathCause = none → w.error = none → ∀ place content,
        o.state.shared.file.fs.lookUp .target path.text = .ok ⟨place, some (.file content)⟩ →
        ¬ journal.logger.WritesTo place →
        content = Charset.Utf8.encode (openText c.settings.mode records))
  /-- This is nothing that a reader could take for a document. -/
  isDocument : ¬ Json.IsDocument (openText c.settings.mode records)
  read? : Json.read? (openText c.settings.mode records) = none

theorem notBegun (hruns : c.Runs fs account journal o) {log : List Log.Record}
    (hscan : c.scanner.scan (c.systemAtScan fs journal) account c.settings.root.text =
      (log, .error f)) : NotBegun fs journal f o := by
  have hlogs : journal.logger.OnlyLogs fs ((c.begun fs journal).noteAll log).file.fs :=
    (Shared.onlyLogs_note { file := { fs }, journal } _).trans
      ((c.begun fs journal).onlyLogs_noteAll log)
  rw [(runs_iff_of_scan_error hscan).mp hruns]
  exact ⟨rfl, (Shared.noteAll_frame log _).2.2.1, rfl, hlogs, hlogs.eq⟩

theorem brokenOff (hruns : c.Runs fs account journal o) {log : List Log.Record}
    {before after : Scan.Registry} {source : Path} {text : Text}
    {found : List (Path × Annotation.Block)}
    (hscan : c.scanner.scan (c.systemAtScan fs journal) account c.settings.root.text =
      (log, .ok (before ++ (source, text) :: after)))
    (hfound : c.parser.blocksOf 0 before = .ok found)
    (hfail : c.parser before.length text = .error f) :
    BrokenOff c journal f (numbered c.settings.template 0 found) o := by
  obtain ⟨acted, made, hmoves, hidle⟩ := (runs_iff_of_scan_ok hscan).mp hruns
  obtain ⟨body, hplan, hyields⟩ :=
    plan_of_failure c.settings source after hfound hfail
  obtain ⟨hcollected, hcompletions, hlogger⟩ := afterScan_frame (c.begun fs journal) log
    (before ++ (source, text) :: after)
  obtain ⟨hfailure, hacted⟩ : o.failure = some f ∧ acted = body := by
    rcases hmoves.stops hcollected hplan with ⟨_, hagenda⟩ | hstopped
    · exact absurd rfl hagenda
    · exact hstopped
  obtain ⟨hdocument, hread⟩ := Json.not_isDocument_and_read?_eq_none
    ((numbered c.settings.template 0 found).map fun r => r.written c.settings.mode)
  rw [List.map_map] at hdocument hread
  refine ⟨hfailure, hmoves.completions_eq_nil ⟨hcollected, hcompletions⟩ hplan, ?_, ?_, hdocument,
    hread⟩
  · rw [(hmoves.mainLine hcollected).records, hacted, hyields.kept]
  · intro path houtput
    have hoperations : c.fileOperations = OutputFile.operations path := by
      rw [fileOperations, houtput]
      rfl
    rw [hoperations] at hmoves hidle
    obtain ⟨w, hwriter, hended, hholds⟩ :=
      hmoves.broken_off houtput ⟨hcollected, hlogger⟩ hplan hidle
    refine ⟨w, hwriter, hended, ?_⟩
    intro hdeath herror place content hfile hlog
    have hcontent := (hholds hdeath herror).content_eq hfile hlog
    rw [hcontent, hyields.chunks]

/-- **A collection that fails leaves no false output.**  If the files cannot be looked for, nothing
was begun and no entry of the file system but the log is touched.  If the parser fails at a file,
the collection ends in that failure, in whatever order the main line and the writer take turns; the
callback is not called; and what the file holds are the records of the files before, in an array
that is not closed. -/
theorem no_false_output (hruns : c.Runs fs account journal o) :
    (∀ log f, c.scanner.scan (c.systemAtScan fs journal) account c.settings.root.text =
        (log, .error f) → NotBegun fs journal f o) ∧
      ∀ log before source text after found f,
        c.scanner.scan (c.systemAtScan fs journal) account c.settings.root.text =
          (log, .ok (before ++ (source, text) :: after)) →
        c.parser.blocksOf 0 before = .ok found → c.parser before.length text = .error f →
        BrokenOff c journal f (numbered c.settings.template 0 found) o :=
  ⟨fun _ _ hscan => notBegun hruns hscan,
    fun _ _ _ _ _ _ _ hscan hfound hfail => brokenOff hruns hscan hfound hfail⟩

/-! ## Two pages, of which the second makes no sense -/

/-- The place of the second page. -/
def lastPath : Path := .absolute ["b.html"]

/-- The text of the second page. -/
def lastPage : Text := "@component"

/-- A file system that holds nothing but the two pages. -/
def pagesSystem : FileSystem :=
  ⟨.directory [("a.html", .file (Charset.Utf8.encode page)),
    ("b.html", .file (Charset.Utf8.encode lastPage))], []⟩

/-- A collector for pages whose parser fails at the second one. -/
def exhaustedCollector : Collector :=
  { ofSettings pageSettings .ascii with
    parser := fun index text =>
      if index = 0 then .ok (pageSettings.dialect.parse text) else .error noSense }

/-- The log of the scan. -/
def pagesLog : List Log.Record :=
  [Scan.Scanner.note "Registered /a.html", Scan.Scanner.note "Registered /b.html",
    Scan.Scanner.note "Scanned 2 candidate files under /, 2 registered"]

theorem scan_pages :
    exhaustedCollector.scanner.scan pagesSystem ⟨"/", []⟩ "/" =
      (pagesLog, .ok [(pagePath, page), (lastPath, lastPage)]) := by
  have hroot : Scan.Scanner.findRoot pagesSystem ⟨"/", []⟩ "/" = .ok (.absolute []) := by cbv
  have hpaths : exhaustedCollector.scanner.candidatePaths pagesSystem (.absolute []) =
      .ok [pagePath, lastPath] := by
    cbv
  have hbytes : pagesSystem.readBytes pagePath.text = .ok (Charset.Utf8.encode page) := by cbv
  have hbytes' : pagesSystem.readBytes lastPath.text = .ok (Charset.Utf8.encode lastPage) := by cbv
  have hfeeds : Text.withLineFeeds page = page := by cbv
  have hfeeds' : Text.withLineFeeds lastPage = lastPage := by cbv
  have hread : pagesSystem.readText exhaustedCollector.scanner.codecs
      exhaustedCollector.scanner.charset pagePath.text = .ok page :=
    (FileSystem.readText_utf8 hbytes).trans (congrArg Except.ok hfeeds)
  have hread' : pagesSystem.readText exhaustedCollector.scanner.codecs
      exhaustedCollector.scanner.charset lastPath.text = .ok lastPage :=
    (FileSystem.readText_utf8 hbytes').trans (congrArg Except.ok hfeeds')
  have hkeyword : Scan.Scanner.mayAnnotate exhaustedCollector.scanner.keyword page = true := by cbv
  have hkeyword' : Scan.Scanner.mayAnnotate exhaustedCollector.scanner.keyword lastPage = true := by
    cbv
  simp only [Scan.Scanner.scan, hroot, hpaths, Scan.Scanner.readAll, hread, hread', hkeyword,
    hkeyword', if_true]
  cbv

/-- What the main line does with the pages. -/
def pagesActions : List Action := pageActions.take 6 ++ [.fail noSense]

theorem plan_pages :
    plan exhaustedCollector.settings exhaustedCollector.parser
      [(pagePath, page), (lastPath, lastPage)] = pagesActions := by
  decide +kernel

/-- What is shared when the pages have been found. -/
def pagesShared : Shared :=
  afterScan (exhaustedCollector.begun pagesSystem pageJournal) pagesLog
    [(pagePath, page), (lastPath, lastPage)]

/-- The output file when it has just been opened. -/
def pagesOpened : OutputFile :=
  { fs := pagesSystem.put ["out"] (.file []), handle := some (.file ["out"]) }

theorem openFile_pages :
    (OutputFile.operations pageOutput).openFile pagesShared.file = (pagesOpened, none) := by
  have hmade : pagesShared.file.fs.ensureDirectories pageOutput.parent = (pagesSystem, none) := by
    cbv
  have hopened : pagesSystem.openToWrite false pageOutput.text =
      .ok (pagesSystem.put ["out"] (.file []), .file ["out"]) := by
    cbv
  exact OutputFile.openFile_eq_ok_iff.mpr ⟨_, _, _, hmade, hopened, rfl⟩

/-- The file is opened, then the main line does all that it can, and then the writer. -/
theorem moves_pages : ∃ acted made state,
    Moves (OutputFile.operations pageOutput) (some {})
      (exhaustedCollector.begin pagesShared [(pagePath, page), (lastPath, lastPage)])
      acted made ⟨state, [], some noSense⟩ ∧
    state.IsIdle (OutputFile.operations pageOutput) (some {}) ∧
    (∃ w, state.writer = some w ∧ w.deathCause = none ∧ w.error = none) ∧
    ∃ content, state.shared.file.fs.lookUp .target pageOutput.text =
      .ok ⟨["out"], some (.file content)⟩ := by
  have hbegin : Moves (OutputFile.operations pageOutput) (some {})
      (exhaustedCollector.begin pagesShared [(pagePath, page), (lastPath, lastPage)]) [] []
      ⟨⟨{ pagesShared with channel := { awaitsWriter := true } }, some { path := pageOutput }⟩,
        pagesActions, none⟩ := by
    rw [← plan_pages]
    exact .refl
  have hstep : Writer.step (Shared.around (OutputFile.operations pageOutput) (some {}))
      { path := pageOutput } { pagesShared with channel := { awaitsWriter := true } } =
      some ({ path := pageOutput, stage := .writing },
        { pagesShared with file := pagesOpened, channel := { awaitsWriter := true } }) := by
    simp only [Writer.step, Shared.around, Shared.onFile, openFile_pages]
  have hrecords := ((((((hbegin.work hstep).act rfl).act rfl).act rfl).act rfl).act rfl).act rfl
  have hfailed := hrecords.fail rfl
  have hwritten := (((hfailed.work rfl).work rfl).work rfl).work rfl
  have hdone := (hwritten.work rfl).work rfl
  refine ⟨_, _, _, hdone, ?_, ⟨_, rfl, rfl, rfl⟩, Charset.Utf8.encode "[\"é\",\"\\\"\"", by cbv⟩
  intro w hw
  cases hw
  rfl

/-- A collector that looks for pages where there is no directory. -/
def lostCollector : Collector :=
  ofSettings { pageSettings with root := .absolute ["nowhere"] } .ascii

/-- The collection from the two pages leaves the texts of the first one, in an array that is not
closed.  One that looks elsewhere leaves nothing. -/
theorem no_false_output_pages :
    (∃ (o : Outcome) (content : Bytes),
      exhaustedCollector.Runs pagesSystem ⟨"/", []⟩ pageJournal o ∧
      o.failure = some noSense ∧ o.state.shared.completions = [] ∧
      o.state.shared.channel.records = pageRecords ∧
      o.state.shared.file.fs.lookUp .target pageOutput.text =
        .ok ⟨["out"], some (.file content)⟩ ∧
      content = Charset.Utf8.encode (openText .rendered pageRecords) ∧
      ¬ Json.IsDocument (openText .rendered pageRecords)) ∧
    let o := lostCollector.run pagesSystem ⟨"/", []⟩ pageJournal
    o.failure = some (.rootNotFound "/nowhere") ∧ o.state.shared.file.fs = pagesSystem ∧
      o.state.shared.completions = [] := by
  have hlog (place : List Text) : ¬ pageJournal.logger.WritesTo place := by
    rintro ⟨_, _, hmem⟩
    exact List.not_mem_nil hmem
  constructor
  · obtain ⟨acted, made, state, hmoves, hidle, ⟨w, hwriter, hdeath, herror⟩, content, hfile⟩ :=
      moves_pages
    have hsystem : exhaustedCollector.systemAtScan pagesSystem pageJournal = pagesSystem := by cbv
    have hscan : exhaustedCollector.scanner.scan
        (exhaustedCollector.systemAtScan pagesSystem pageJournal) ⟨"/", []⟩
        exhaustedCollector.settings.root.text =
          (pagesLog, .ok ([(pagePath, page)] ++ (lastPath, lastPage) :: [])) := by
      rw [hsystem]
      exact scan_pages
    have hruns : exhaustedCollector.Runs pagesSystem ⟨"/", []⟩ pageJournal
        ⟨state, some noSense⟩ := (runs_iff_of_scan_ok hscan).mpr ⟨acted, made, hmoves, hidle⟩
    have hrecords : numbered exhaustedCollector.settings.template 0
        ((pageSettings.dialect.parse page).map (pagePath, ·) ++ []) = pageRecords := by
      decide +kernel
    have hbroken := (no_false_output hruns).2 _ _ _ _ _ _ _ hscan rfl rfl
    rw [hrecords] at hbroken
    obtain ⟨w', hwriter', _, hcontent⟩ := hbroken.file pageOutput rfl
    cases hwriter.symm.trans hwriter'
    exact ⟨_, content, hruns, hbroken.failure, hbroken.completions, hbroken.kept, hfile,
      hcontent hdeath herror _ _ hfile (hlog _), hbroken.isDocument⟩
  · have hscan : lostCollector.scanner.scan (lostCollector.systemAtScan pagesSystem pageJournal)
        ⟨"/", []⟩ lostCollector.settings.root.text = ([], .error (.rootNotFound "/nowhere")) := by
      cbv
    have hnot := (no_false_output (lostCollector.runs_run pagesSystem ⟨"/", []⟩ pageJournal)).1 _ _
      hscan
    exact ⟨hnot.failure, hnot.unchanged hlog, hnot.completions⟩

end MarkupCatalog.Collector
