/-
  ArgProcessor/Proofs/Command/Recording.lean
  ==========================================
  **What a run that generates a class asks of its machine.**

  A run is watched on a machine that takes down the requests to write a file and the texts shown
  on the output, in their order (`recorder`).  What the argument list holds and how the writing
  ends are left open.

  Each step of the run has one equation for its answer and for what it adds to the record.  They
  are put together by `run_bind`: the record of a step is where the next one begins.  A run then
  writes all of a class or nothing, and shows nothing unless it goes well
  (`run_writes_all_or_nothing`).
-/
import ArgProcessor.Command.Run
import ArgProcessor.Proofs.ProcessorClass.Members

namespace ArgProcessor

/-! ### A machine that takes down what is asked of it -/

/-- A request to write a file, or a text shown on the output. -/
inductive Effect where
  | write (path content : String)
  | print (text : String)
deriving DecidableEq, Repr

/-- Every file read gives `listing`, and every request to write ends in `outcome`. -/
def recorder (listing : Except AccessError String) (outcome : Except AccessError Unit) :
    Host (StateM (List Effect)) where
  readText _ := pure listing
  writeText path content := do
    modify (· ++ [.write path content])
    return outcome
  print text := modify (· ++ [.print text])
  printError _ := pure ()
  log _ := pure ()

/-- The argument list that a listing gives. -/
def ArgumentList.ofListing (listing : Except AccessError String) (path : String) :
    Except ReadError ArgumentList :=
  match listing with
  | .error cause => .error (.unreadable path cause)
  | .ok content => (ArgumentList.read content path).mapError .malformedRow

theorem run_bind {α β : Type} {x : StateM (List Effect) α} {f : α → StateM (List Effect) β} {a : α}
    {before after : List Effect} (h : x.run before = (a, after)) :
    (x >>= f).run before = (f a).run after := by
  rw [StateT.run_bind, h]
  rfl

/-! ### Steps of a run -/

section Steps

variable (listing : Except AccessError String) (outcome : Except AccessError Unit)
  (record : List Effect)

theorem run_load (path : String) :
    (ArgumentList.load (recorder listing outcome) path).run record =
      (ArgumentList.ofListing listing path, record) := by
  cases listing <;> rfl

theorem run_forM_log (events : List LogEvent) :
    (events.forM (recorder listing outcome).log).run record = ((), record) := by
  induction events with
  | nil => rfl
  | cons e events ih => exact ih

theorem run_write (f : ClassFile) :
    (f.write (recorder listing outcome)).run record =
      (outcome.mapError (.unwritten f.path), record ++ [.write f.path f.content]) := by
  cases outcome <;> rfl

theorem run_showItems (items : List ReportItem) :
    (showItems (recorder listing outcome) items).run record =
      ((), record ++ [.print (ReportItem.outputAll items)]) := rfl

variable {s : ArgumentList} {o : ClassOptions} (path : String)

theorem run_render_of_error {e : ClassError} (h : s.classText o = .error e) :
    (s.render (recorder listing outcome) o path).run record = (.error (.invalid e), record) := by
  have hpreview : s.preview o path = .error e := by
    rw [ArgumentList.preview, h]
    rfl
  rw [ArgumentList.render, hpreview]
  rfl

theorem preview_of_ok {text : String} (h : s.classText o = .ok text) :
    s.preview o path = .ok ⟨path, text⟩ := by
  rw [ArgumentList.preview, h]
  rfl

theorem run_render_of_ok {text : String} (h : s.classText o = .ok text) :
    (s.render (recorder listing outcome) o path).run record = (.ok ⟨path, text⟩, record) := by
  rw [ArgumentList.render, preview_of_ok path h]
  exact run_bind (run_forM_log listing outcome record _)

theorem run_generate_of_error {e : ClassError} (h : s.classText o = .error e) :
    (s.generate (recorder listing outcome) o path).run record = (.error (.invalid e), record) :=
  run_bind (run_render_of_error listing outcome record path h)

theorem run_generate_of_ok {text : String} (h : s.classText o = .ok text) :
    (s.generate (recorder listing outcome) o path).run record =
      ((outcome.mapError (.unwritten path)).map fun _ => ⟨path, text⟩,
        record ++ [.write path text]) := by
  have hwrite := run_write listing outcome record ⟨path, text⟩
  rw [ArgumentList.generate, run_bind (run_render_of_ok listing outcome record path h)]
  cases outcome with
  | error cause => exact run_bind hwrite
  | ok _ => exact run_bind hwrite

theorem run_generateReport_of_error (dryRun : Bool) {e : ClassError}
    (h : s.classText o = .error e) :
    (s.generateReport (recorder listing outcome) o path dryRun).run record =
      (.error (if dryRun then .invalid e else .failed (.invalid e)), record) := by
  cases dryRun with
  | true => exact run_bind (run_render_of_error listing outcome record path h)
  | false =>
    have hfailed : (Except.mapError GenerateError.failed <$>
        s.generate (recorder listing outcome) o path).run record =
          (.error (.failed (.invalid e)), record) := by
      rw [StateT.run_map, run_generate_of_error listing outcome record path h]
      rfl
    exact run_bind hfailed

theorem run_generateReport_dry {text : String} (h : s.classText o = .ok text) :
    (s.generateReport (recorder listing outcome) o path true).run record =
      (.ok { file := ⟨path, text⟩, arguments := s.size, written := false }, record) :=
  run_bind (run_render_of_ok listing outcome record path h)

theorem run_generateReport_written {text : String} (h : s.classText o = .ok text) :
    (s.generateReport (recorder listing outcome) o path false).run record =
      ((outcome.mapError fun cause => .failed (.unwritten path cause)).map fun _ =>
          { file := ⟨path, text⟩, arguments := s.size, written := true },
        record ++ [.write path text]) := by
  have hgenerate := run_generate_of_ok listing outcome record path h
  simp only [ArgumentList.generateReport, Bool.false_eq_true, if_false, StateT.run_bind,
    StateT.run_map, hgenerate]
  cases outcome with
  | error cause => rfl
  | ok _ => rfl

/-- There is a report unless the text was to be written and was not. -/
theorem exists_report {text : String} (h : s.classText o = .ok text) {dryRun : Bool}
    (hgood : dryRun = true ∨ outcome = .ok ()) :
    ∃ report after,
      (s.generateReport (recorder listing outcome) o path dryRun).run record =
        (.ok report, after) ∧
      report.arguments = s.size ∧ report.file = ⟨path, text⟩ := by
  cases dryRun with
  | true => exact ⟨_, _, run_generateReport_dry listing outcome record path h, rfl, rfl⟩
  | false =>
    obtain rfl : outcome = .ok () := hgood.resolve_left Bool.false_ne_true
    exact ⟨_, _, run_generateReport_written listing _ record path h, rfl, rfl⟩

end Steps

/-! ### Whole runs -/

/-- What a run shows that generates a class of the given text from `n` arguments. -/
def GenerateSettings.shown (g : GenerateSettings) (text : String) (n : Nat) : String :=
  (if g.quiet then "" else "── " ++ g.classFile ++ " ──\n" ++ text ++ "\n") ++
    if g.dryRun then "Dry run: " ++ g.classFile ++ " not written (" ++ countArguments n ++ ")\n"
    else "✓ Generated " ++ g.classFile ++ " (" ++ countArguments n ++ ")\n"

theorem outputAll_report (g : GenerateSettings) (text : String) (n : Nat) :
    ReportItem.outputAll (GenerateReport.items
      { file := ⟨g.classFile, text⟩, arguments := n, written := !g.dryRun, echo := !g.quiet }) =
      g.shown text n := by
  apply String.toList_inj.1
  cases hquiet : g.quiet <;> cases hdry : g.dryRun <;>
    simp [GenerateReport.items, ReportItem.outputAll, ReportItem.output, GenerateSettings.shown,
      hquiet, hdry, toString]

section Run

variable {listing : Except AccessError String} {outcome : Except AccessError Unit}
  {record : List Effect} {g : GenerateSettings} {s : ArgumentList}

theorem run_of_unread {e : ReadError}
    (h : ArgumentList.ofListing listing g.argumentList = .error e) :
    (g.run (recorder listing outcome)).run record = (.error (.unreadList e), record) := by
  have hload := run_load listing outcome record g.argumentList
  rw [h] at hload
  exact run_bind hload

/-- A run that has its argument list ends as the report does, and shows it if there is one. -/
theorem run_of_listed {after : List Effect} {answer : Except GenerateError GenerateReport}
    (hlist : ArgumentList.ofListing listing g.argumentList = .ok s)
    (h : (s.generateReport (recorder listing outcome) g.options g.classFile g.dryRun).run record =
      (answer, after)) :
    (g.run (recorder listing outcome)).run record =
      match answer with
      | .error e => (.error (.notGenerated e), after)
      | .ok r =>
        (.ok (), after ++ [.print (ReportItem.outputAll { r with echo := !g.quiet }.items)]) := by
  have hload := run_load listing outcome record g.argumentList
  rw [hlist] at hload
  have hlog : ((recorder listing outcome).log (.listRead g.argumentList s.size)).run record =
      ((), record) := rfl
  rw [GenerateSettings.run, run_bind hload]
  cases answer with
  | error e => exact (run_bind hlog).trans (run_bind h)
  | ok r =>
    have hshow := run_showItems listing outcome after { r with echo := !g.quiet }.items
    exact (run_bind hlog).trans ((run_bind h).trans (run_bind hshow))

variable {text : String} (hlist : ArgumentList.ofListing listing g.argumentList = .ok s)
include hlist

theorem run_invalid {e : ClassError} (h : s.classText g.options = .error e) :
    (g.run (recorder listing outcome)).run record =
      (.error (.notGenerated (if g.dryRun then .invalid e else .failed (.invalid e))), record) :=
  run_of_listed hlist (run_generateReport_of_error listing outcome record g.classFile g.dryRun h)

variable (htext : s.classText g.options = .ok text)
include htext

theorem run_dry (hdry : g.dryRun = true) :
    (g.run (recorder listing outcome)).run record =
      (.ok (), record ++ [.print (g.shown text s.size)]) := by
  have hreport := run_generateReport_dry listing outcome record g.classFile htext
  have houtput := outputAll_report g text s.size
  rw [hdry] at houtput
  rw [run_of_listed hlist (hdry ▸ hreport)]
  exact congrArg (fun shown => (Except.ok (), record ++ [Effect.print shown])) houtput

theorem run_unwritten (hdry : g.dryRun = false) {cause : AccessError}
    (hfail : outcome = .error cause) :
    (g.run (recorder listing outcome)).run record =
      (.error (.notGenerated (.failed (.unwritten g.classFile cause))),
        record ++ [.write g.classFile text]) := by
  have hreport := run_generateReport_written listing outcome record g.classFile htext
  rw [hfail] at hreport ⊢
  exact run_of_listed hlist (hdry ▸ hreport)

theorem run_written (hdry : g.dryRun = false) (hok : outcome = .ok ()) :
    (g.run (recorder listing outcome)).run record =
      (.ok (), record ++ [.write g.classFile text] ++ [.print (g.shown text s.size)]) := by
  have hreport := run_generateReport_written listing outcome record g.classFile htext
  have houtput := outputAll_report g text s.size
  rw [hok] at hreport ⊢
  rw [hdry] at houtput
  rw [run_of_listed hlist (hdry ▸ hreport)]
  exact congrArg (fun shown => (Except.ok (), record ++ [Effect.write g.classFile text] ++
    [Effect.print shown])) houtput

end Run

/-- **A run writes the whole class to its path or nothing at all**, and it shows nothing unless it
    goes well.  What it then shows holds the text that is written, which a dry run shows as well
    and a preview has as its content. -/
theorem run_writes_all_or_nothing (listing : Except AccessError String)
    (outcome : Except AccessError Unit) (g : GenerateSettings) :
    let run := (g.run (recorder listing outcome)).run []
    (∀ e, ArgumentList.ofListing listing g.argumentList = .error e →
      run = (.error (.unreadList e), [])) ∧
    (g.dryRun = true → ∀ path content, .write path content ∉ run.2) ∧
    ∀ s, ArgumentList.ofListing listing g.argumentList = .ok s →
      (∀ e, s.classText g.options = .error e →
        ∃ failure, run = (.error (.notGenerated failure), [])) ∧
      ∀ text, s.classText g.options = .ok text →
        s.preview g.options g.classFile = .ok ⟨g.classFile, text⟩ ∧
        (g.dryRun = true ∨ outcome = .ok () → ∃ report record,
          (s.generateReport (recorder listing outcome) g.options g.classFile g.dryRun).run [] =
            (.ok report, record) ∧
          report.arguments = s.size ∧ report.file = ⟨g.classFile, text⟩) ∧
        (g.dryRun = true → run = (.ok (), [.print (g.shown text s.size)])) ∧
        (g.dryRun = false →
          (∀ cause, outcome = .error cause →
            ∃ failure, run = (.error (.notGenerated failure), [.write g.classFile text]) ∧
              failure.chain = ["Failed to generate code",
                "failed to write '" ++ g.classFile ++ "'", cause.message]) ∧
          (outcome = .ok () →
            run = (.ok (), [.write g.classFile text, .print (g.shown text s.size)]))) := by
  intro run
  refine ⟨fun e => run_of_unread, ?_, fun s hlist => ⟨fun e h => ⟨_, run_invalid hlist h⟩, ?_⟩⟩
  · -- a dry run is empty or a single text, whichever way it ends
    intro hdry path content
    cases hlist : ArgumentList.ofListing listing g.argumentList with
    | error e =>
      have hrun : run = (.error (.unreadList e), []) := run_of_unread hlist
      simp [hrun]
    | ok s =>
      cases htext : s.classText g.options with
      | error e =>
        have hrun : run = _ := run_invalid hlist htext
        simp [hrun]
      | ok text =>
        have hrun : run = _ := run_dry hlist htext hdry
        simp [hrun]
  · intro text htext
    refine ⟨preview_of_ok _ htext, exists_report _ _ _ _ htext,
      run_dry hlist htext, fun hdry => ⟨?_, run_written hlist htext hdry⟩⟩
    intro cause hfail
    refine ⟨_, run_unwritten hlist htext hdry hfail, ?_⟩
    simp [GenerateError.chain, toString]

/-- The path of the class is a directory: the class was asked to be written there, and nothing is
    shown. -/
theorem run_writes_all_or_nothing_unwritable :
    ∃ s text failure,
      ArgumentList.ofListing (.ok "\nout,path,Yes,,,") "args.csv" = .ok s ∧
      s.classText {} = .ok text ∧
      (GenerateSettings.run (recorder (.ok "\nout,path,Yes,,,") (.error .isDirectory))
        ⟨"args.csv", "bin", {}, false, false⟩).run [] =
          (.error (.notGenerated failure), [.write "bin" text]) ∧
      failure.chain =
        ["Failed to generate code", "failed to write 'bin'", "Is a directory (os error 21)"] := by
  have hlist : ArgumentList.ofListing (.ok "\nout,path,Yes,,,") "args.csv" = .ok
      (.ofRows [⟨2, ⟨"out", "path", true, false, false, false⟩⟩]) := rfl
  have htext := ArgumentList.classText_eq_ok_iff (o := {})
    (s := .ofRows [⟨2, ⟨"out", "path", true, false, false, false⟩⟩]) |>.2
    ⟨by decide, by decide, rfl⟩
  have hrun := run_writes_all_or_nothing (.ok "\nout,path,Yes,,,") (.error .isDirectory)
    ⟨"args.csv", "bin", {}, false, false⟩
  obtain ⟨-, -, hwritten⟩ := hrun
  obtain ⟨-, -, -, hwrite⟩ := (hwritten _ hlist).2 _ htext
  obtain ⟨failure, hfailed, hchain⟩ := (hwrite rfl).1 _ rfl
  exact ⟨_, _, failure, hlist, htext, hfailed, hchain⟩

end ArgProcessor
