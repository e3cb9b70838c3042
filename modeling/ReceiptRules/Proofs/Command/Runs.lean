import ReceiptRules.Proofs.Command.ExitCodes
import ReceiptRules.Proofs.Files.Directories
import ReceiptRules.Proofs.RuleFile.VerifySaved

/-!
# Runs one after another

Of all that the program can be asked for, only to write the example rules changes files. What a run does
to the files is one of two things (`Run.filesAfter_cases`), and from that follows what any number of runs
do: a file comes to be, or changes, by such a run only, and the rule file that it has written stays good
(`Run.initialization_changes_files`).
-/

namespace ReceiptRules

open RuleFile (exampleRules)

variable {files later : FileTree} {place : List String} {path : String} {force : Bool}

/-! ## Writing the example rules -/

/-- Directories are made before a rule file is saved, and stay also if it cannot be written. -/
theorem RuleFile.save_cases (files : FileTree) (path : String) (s : RuleSet) :
    (∃ made e, files.GrowsTo made ∧ save files path s = (made, .error e)) ∨
      ∃ made written, files.GrowsTo made ∧ made.write path (text s) = .ok written ∧
        save files path s = (written, .ok ()) := by
  have hgrows := files.makeParent_grows path
  rw [save]
  split
  · next made e hparent =>
    rw [hparent] at hgrows
    exact .inl ⟨made, _, hgrows, rfl⟩
  · next made hparent =>
    rw [hparent] at hgrows
    split
    · next written hwrite => exact .inr ⟨made, written, hgrows, hwrite, rfl⟩
    · exact .inl ⟨made, _, hgrows, rfl⟩

theorem Failure.exitCode_ne_success (f : Failure) : f.exitCode ≠ .success := by
  cases f <;> nofun

/-- The example rules are written at the path of the rule file, where no file may be unless forced; or
there is an error. -/
theorem Command.create_cases (env : Environment) (options : Options) (force : Bool) :
    (∃ made f, env.files.GrowsTo made ∧ create env options force = (.error f, made)) ∨
      ∃ path made written, env.rulePath options = .ok path ∧
        (force = true ∨ env.files.contains path = false) ∧ env.files.GrowsTo made ∧
        made.write path (RuleFile.text exampleRules) = .ok written ∧
        create env options force = (.ok (.written path), written) := by
  rw [create]
  split
  · exact .inl ⟨_, _, .refl _, rfl⟩
  · next path hpath =>
    split_ifs with hexists
    · exact .inl ⟨_, _, .refl _, rfl⟩
    · have hfree : force = true ∨ env.files.contains path = false := by
        by_cases hforce : force = true
        · exact .inl hforce
        · exact .inr (by simpa [hforce] using hexists)
      rcases RuleFile.save_cases env.files path exampleRules with
        ⟨made, e, hgrows, hsave⟩ | ⟨made, written, hgrows, hwrite, hsave⟩
      · rw [hsave]
        exact .inl ⟨_, _, hgrows, rfl⟩
      · rw [hsave]
        exact .inr ⟨path, made, written, hpath, hfree, hgrows, hwrite, rfl⟩

/-! ## One run -/

/-- One run of the program: its arguments, and what it sees beside the files. -/
structure Run where
  arguments : List String
  assignments : List (String × String) := []
  input : Except FileError String := .ok ""
  terminal : Bool := false

namespace Run

variable {r : Run}

/-- What a run sees when there are the given files. -/
def environment (r : Run) (files : FileTree) : Environment :=
  ⟨r.assignments, r.input, r.terminal, files⟩

/-- The files after a run. If the arguments are refused, nothing is done. -/
def filesAfter (r : Run) (files : FileTree) : FileTree :=
  match Invocation.ofArguments r.arguments with
  | .ok i => (i.run (r.environment files)).files
  | .error _ => files

/-- A run writes the example rules at a path, and succeeds. -/
inductive Initializes (r : Run) (files : FileTree) (force : Bool) (path : String) : Prop
  | intro {options : Options}
      (invoked : Invocation.ofArguments r.arguments = .ok ⟨.ruleFile (.create force), options⟩)
      (located : (r.environment files).rulePath options = .ok path)
      (succeeds : (Invocation.run ⟨.ruleFile (.create force), options⟩
        (r.environment files)).exitCode = .success)

/-- The effect of a run that succeeds to write the example rules. -/
theorem Initializes.exists_write (h : r.Initializes files force path) :
    (force = true ∨ files.contains path = false) ∧
      ∃ made, files.GrowsTo made ∧
        made.write path (RuleFile.text exampleRules) = .ok (r.filesAfter files) := by
  obtain @⟨options, invoked, located, succeeds⟩ := h
  have hfiles : r.filesAfter files = (Command.create (r.environment files) options force).2 := by
    rw [filesAfter, invoked]
    rfl
  rw [hfiles]
  rcases Command.create_cases (r.environment files) options force with
    ⟨made, f, -, hcreate⟩ | ⟨path', made, written, hpath, hfree, hgrows, hwrite, hcreate⟩
  · have hcode : f.exitCode = .success := by
      simpa [Invocation.run, Command.conclude, hcreate, Conclusion.exitCode] using succeeds
    exact absurd hcode f.exitCode_ne_success
  · obtain rfl : path = path' := Except.ok.inj (located.symm.trans hpath)
    rw [hcreate]
    exact ⟨hfree, made, hgrows, hwrite⟩

/-- A run makes directories at most, or writes the example rules. -/
theorem filesAfter_cases (r : Run) (files : FileTree) :
    files.GrowsTo (r.filesAfter files) ∨ ∃ force path, r.Initializes files force path := by
  have hsame : files.GrowsTo files := .refl files
  rw [filesAfter]
  split
  · next i hinvoked =>
    by_cases hcommand : ∃ force, i.command = .ruleFile (.create force)
    · obtain ⟨command, options⟩ := i
      obtain ⟨force, rfl⟩ := hcommand
      rcases Command.create_cases (r.environment files) options force with
        ⟨made, f, hgrows, hcreate⟩ | ⟨path, made, written, hpath, -, -, -, hcreate⟩
      · left
        rw [Invocation.run]
        simp only [Command.filesAfter, hcreate]
        exact hgrows
      · refine .inr ⟨force, path, hinvoked, hpath, ?_⟩
        simp [Invocation.run, Command.conclude, hcreate, Conclusion.exitCode, Outcome.exitCode]
    · left
      rw [Invocation.run]
      simp only [Command.filesAfter_eq_files (r.environment files) i.options (not_exists.mp hcommand)]
      exact hsame
  · exact .inl hsame

/-- Where there is a directory, there is one after a run. -/
theorem keepsDirectories_filesAfter (r : Run) (files : FileTree) :
    files.KeepsDirectories (r.filesAfter files) := by
  rcases r.filesAfter_cases files with hgrows | ⟨force, path, h⟩
  · exact hgrows.keepsDirectories
  · obtain ⟨-, made, hgrows, hwrite⟩ := h.exists_write
    exact hgrows.keepsDirectories.trans (FileTree.keepsDirectories_write hwrite)

theorem rooted_filesAfter (r : Run) (h : files.Rooted) : (r.filesAfter files).Rooted := by
  rcases r.filesAfter_cases files with hgrows | ⟨force, path, hinit⟩
  · exact hgrows.rooted h
  · obtain ⟨-, made, hgrows, hwrite⟩ := hinit.exists_write
    exact (hgrows.rooted h).write hwrite

/-- A run succeeds to write the example rules at a path that leads to a place. -/
structure WritesTo (r : Run) (files : FileTree) (place : List String) (force : Bool) (path : String) :
    Prop where
  initializes : r.Initializes files force path
  leads : (r.filesAfter files).locate (.ofText path) = .ok place

/-- The example rules are at the place that they were written to. -/
theorem WritesTo.fileAt?_filesAfter (h : r.WritesTo files place force path) :
    (r.filesAfter files).fileAt? place = some (.file (RuleFile.text exampleRules)) := by
  obtain ⟨-, made, hgrows, hwrite⟩ := h.initializes.exists_write
  obtain ⟨place', hplace', hfile, -⟩ := FileTree.lookup_eq_file_iff.mp (FileTree.lookup_write hwrite)
  obtain rfl : place = place' := Except.ok.inj (h.leads.symm.trans hplace')
  exact hfile

/-- A file that a run changes, or makes, is one that it writes the example rules to. If the run is not
forced to, no path has led to a file that it writes over. -/
theorem fileAt?_filesAfter (r : Run) (files : FileTree) (place : List String) :
    (r.filesAfter files).fileAt? place = files.fileAt? place ∨
      ∃ force path, r.WritesTo files place force path ∧
        (files.fileAt? place = none ∨ force = true ∨
          files.locate (.ofText path) = .error .notFound ∧
            (files.Rooted → ".." ∈ (FilePath.ofText path).names)) := by
  rcases r.filesAfter_cases files with hgrows | ⟨force, path, h⟩
  · exact .inl (hgrows.fileAt?_eq place)
  · obtain ⟨hfree, made, hgrows, hwrite⟩ := h.exists_write
    obtain ⟨target, hlocate, htarget, -⟩ := FileTree.exists_of_write hwrite
    have hfile := FileTree.fileAt?_write hwrite hlocate place
    by_cases hplace : place = target
    · subst hplace
      have hleads := (FileTree.keepsDirectories_write hwrite).locate hlocate
      refine .inr ⟨force, path, ⟨h, hleads⟩, ?_⟩
      -- A run that is not forced has found nothing at its path, but perhaps only for want of directories.
      by_cases hthere : files.fileAt? place = none
      · exact .inl hthere
      · refine .inr (hfree.imp_right fun hcontains => ?_)
        exact hgrows.locate_of_write hcontains hwrite hlocate hthere
    · rw [if_neg hplace, hgrows.fileAt?_eq] at hfile
      exact .inl hfile

/-- A run that is not forced to leaves everything as it is if there is a rule file. -/
theorem filesAfter_of_contains {options : Options}
    (invoked : Invocation.ofArguments r.arguments = .ok ⟨.ruleFile (.create false), options⟩)
    (located : (r.environment files).rulePath options = .ok path)
    (there : files.contains path = true) :
    (Invocation.run ⟨.ruleFile (.create false), options⟩ (r.environment files)).exitCode =
        .badRuleFile ∧ r.filesAfter files = files := by
  have hcreate : Command.create (r.environment files) options false =
      (.error (.ruleFileExists path), files) := by
    rw [Command.create, located]
    simp [environment, there]
  constructor
  · simp [Invocation.run, Command.conclude, hcreate, Conclusion.exitCode, Failure.exitCode]
  · simp [filesAfter, invoked, Invocation.run, Command.filesAfter, hcreate]

/-! ## Runs one after another -/

/-- The files after runs, one after another. -/
def filesAfterAll (runs : List Run) (files : FileTree) : FileTree :=
  runs.foldl (fun files r => r.filesAfter files) files

theorem filesAfterAll_concat (runs : List Run) (r : Run) (files : FileTree) :
    filesAfterAll (runs ++ [r]) files = r.filesAfter (filesAfterAll runs files) :=
  List.foldl_append ..

/-- The first of some runs that changes the file at a place, or makes it, writes the example rules there;
unless forced it does so only by a path that has not led to the file. -/
theorem exists_writesTo_of_ne {runs : List Run}
    (h : (filesAfterAll runs files).fileAt? place ≠ files.fileAt? place) :
    ∃ before r rest force path, runs = before ++ r :: rest ∧
      (filesAfterAll before files).fileAt? place = files.fileAt? place ∧
      r.WritesTo (filesAfterAll before files) place force path ∧
      (files.fileAt? place = none ∨ force = true ∨
        (filesAfterAll before files).locate (.ofText path) = .error .notFound ∧
          (files.Rooted → ".." ∈ (FilePath.ofText path).names)) := by
  induction runs generalizing files with
  | nil => exact absurd rfl h
  | cons r runs ih =>
    -- Either the first run changes the file, or what is looked for is among the others.
    by_cases hsame : (r.filesAfter files).fileAt? place = files.fileAt? place
    · have hlater : (filesAfterAll runs (r.filesAfter files)).fileAt? place ≠
          (r.filesAfter files).fileAt? place := by
        rw [hsame]
        exact h
      obtain ⟨before, r', rest, force, path, rfl, hbefore, hwrites, hfree⟩ := ih hlater
      rw [hsame] at hbefore hfree
      refine ⟨r :: before, r', rest, force, path, rfl, hbefore, hwrites, ?_⟩
      refine hfree.imp_right (Or.imp_right (And.imp_right ?_))
      exact fun hdots hrooted => hdots (rooted_filesAfter r hrooted)
    · obtain ⟨force, path, hwrites, hfree⟩ := (fileAt?_filesAfter r files place).resolve_left hsame
      exact ⟨[], r, runs, force, path, rfl, rfl, hwrites, hfree⟩

/-! ## A new rule file -/

/-- What may happen to the files while nobody else changes what a path leads to. -/
inductive Undisturbed (path : String) : FileTree → FileTree → Prop
  | run (r : Run) (files : FileTree) : Undisturbed path files (r.filesAfter files)
  | outside {files changed : FileTree}
      (same : changed.lookup (.ofText path) = files.lookup (.ofText path)) :
      Undisturbed path files changed

/-- No run takes the example rules away. -/
theorem lookup_filesAfter (r : Run)
    (h : files.lookup (.ofText path) = .ok (.file (RuleFile.text exampleRules))) :
    (r.filesAfter files).lookup (.ofText path) = .ok (.file (RuleFile.text exampleRules)) := by
  rw [FileTree.lookup_eq_file_iff] at h ⊢
  obtain ⟨place, hlocate, hfile, hdirectory⟩ := h
  refine ⟨place, (keepsDirectories_filesAfter r files).locate hlocate, ?_, hdirectory⟩
  rcases fileAt?_filesAfter r files place with hsame | ⟨force, path, hwrites, -⟩
  · rw [hsame, hfile]
  · exact hwrites.fileAt?_filesAfter

theorem lookup_of_initializes (h : r.Initializes files force path)
    (hlater : Relation.ReflTransGen (Undisturbed path) (r.filesAfter files) later) :
    later.lookup (.ofText path) = .ok (.file (RuleFile.text exampleRules)) := by
  induction hlater with
  | refl =>
    obtain ⟨-, made, -, hwrite⟩ := h.exists_write
    exact FileTree.lookup_write hwrite
  | tail _ hstep ih =>
    cases hstep with
    | run r => exact lookup_filesAfter r ih
    | outside same => exact same.trans ih

end Run

/-! ## What is said of a new rule file -/

theorem Conclusion.output_rules (mode : OutputMode) (s : RuleSet) :
    Conclusion.output mode (.ok (.rules s)) = if mode = .quiet then "" else (Outcome.rules s).text := by
  cases mode <;> rfl

theorem Options.mode_eq_quiet_iff {o : Options} {terminal : Bool} :
    o.mode terminal = .quiet ↔ o.quiet = true := by
  rw [mode]
  split_ifs <;> simp_all

namespace Invocation

variable {env : Environment} {options : Options}

/-- A rule file with the example rules has no faults. -/
theorem exitCode_verify_examples (hpath : env.rulePath options = .ok path)
    (h : env.files.lookup (.ofText path) = .ok (.file (RuleFile.text exampleRules))) :
    (Invocation.run ⟨.ruleFile .verify, options⟩ env).exitCode = .success := by
  have hverify : (Command.ruleFile .verify).conclude env options = .ok (.verified path []) := by
    rw [Command.conclude_verify hpath, RuleFile.verifyAt_examples h]
    rfl
  rw [run, hverify]
  rfl

/-- A rule file with the example rules is printed as these. -/
theorem output_print_examples (hpath : env.rulePath options = .ok path)
    (h : env.files.lookup (.ofText path) = .ok (.file (RuleFile.text exampleRules)))
    {env' : Environment} {options' : Options} (hquiet : options'.quiet = options.quiet) :
    (Invocation.run ⟨.ruleFile .print, options⟩ env).output =
      (Invocation.run ⟨.ruleFile .examples, options'⟩ env').output := by
  have hprint : (Command.ruleFile .print).conclude env options = .ok (.rules exampleRules) := by
    have hrules : env.rules options = .ok exampleRules := by
      rw [Environment.rules, hpath]
      exact mapError_eq_ok.mpr (RuleFile.load_examples h)
    rw [Command.conclude, hrules]
    rfl
  have hexamples : (Command.ruleFile .examples).conclude env' options' = .ok (.rules exampleRules) := rfl
  rw [run, run, hprint, hexamples]
  simp [Conclusion.output_rules, Options.mode_eq_quiet_iff, hquiet]

end Invocation

namespace Run

/-- What runs do to files. The first that changes a file, or makes it, is one that succeeds to write the
example rules there; over a file it must be forced to, unless its path has not led to the file, for want
of a directory that two points lead out of again. A run that is not forced to leaves everything as it is
if its path leads to something. A new rule file has no faults, and is printed as the example rules are,
for as long as nobody else changes it. -/
theorem initialization_changes_files (runs : List Run) (files : FileTree) :
    (∀ place, (filesAfterAll runs files).fileAt? place ≠ files.fileAt? place →
      ∃ before r rest force path, runs = before ++ r :: rest ∧
        (filesAfterAll before files).fileAt? place = files.fileAt? place ∧
        r.WritesTo (filesAfterAll before files) place force path ∧
        (files.fileAt? place = none ∨ force = true ∨
          (filesAfterAll before files).locate (.ofText path) = .error .notFound ∧
            (files.Rooted → ".." ∈ (FilePath.ofText path).names))) ∧
    (∀ (r : Run) options path,
      Invocation.ofArguments r.arguments = .ok ⟨.ruleFile (.create false), options⟩ →
      (r.environment (filesAfterAll runs files)).rulePath options = .ok path →
      (filesAfterAll runs files).contains path = true →
      (Invocation.run ⟨.ruleFile (.create false), options⟩
          (r.environment (filesAfterAll runs files))).exitCode.toNat = 5 ∧
        filesAfterAll (runs ++ [r]) files = filesAfterAll runs files) ∧
    (∀ (r : Run) force path later, r.Initializes (filesAfterAll runs files) force path →
      Relation.ReflTransGen (Undisturbed path) (filesAfterAll (runs ++ [r]) files) later →
      ∀ env options, env.files = later → env.rulePath options = .ok path →
        (Invocation.run ⟨.ruleFile .verify, options⟩ env).exitCode.toNat = 0 ∧
        ∀ env' options', options'.quiet = options.quiet →
          (Invocation.run ⟨.ruleFile .print, options⟩ env).output =
            (Invocation.run ⟨.ruleFile .examples, options'⟩ env').output) := by
  refine ⟨fun place => exists_writesTo_of_ne, ?refused, ?stays⟩
  case refused =>
    intro r options path invoked located there
    obtain ⟨hcode, hfiles⟩ := filesAfter_of_contains invoked located there
    rw [hcode, filesAfterAll_concat, hfiles]
    exact ⟨rfl, rfl⟩
  case stays =>
    intro r force path later hinit hlater env options hfiles hpath
    rw [filesAfterAll_concat] at hlater
    have hlookup := lookup_of_initializes hinit hlater
    rw [← hfiles] at hlookup
    constructor
    · rw [Invocation.exitCode_verify_examples hpath hlookup]
      rfl
    · intro env' options' hquiet
      exact Invocation.output_print_examples hpath hlookup hquiet

/-- A run that makes the first rule file. -/
def firstRun : Run where
  arguments := ["--config", "rules.json", "config", "init"]

theorem firstRun_initializes : firstRun.Initializes {} false "rules.json" := by
  have invoked : Invocation.ofArguments firstRun.arguments =
      .ok ⟨.ruleFile (.create false), { rulePath := some "rules.json" }⟩ := rfl
  exact .intro invoked rfl (by decide +kernel)

/-- The first rule file has no faults. -/
theorem initialization_firstRun :
    firstRun.Initializes {} false "rules.json" ∧
      (Invocation.run ⟨.ruleFile .verify, { rulePath := some "rules.json" }⟩
        ⟨[], .ok "", false, firstRun.filesAfter {}⟩).exitCode.toNat = 0 := by
  have hstays := (initialization_changes_files [] {}).2.2
  refine ⟨firstRun_initializes, ?_⟩
  exact (hstays firstRun false "rules.json" _ firstRun_initializes .refl _ _ rfl rfl).1

/-- A run that is not forced to write over a file, with a path that leads through a directory and out of
it again. -/
def detourRun : Run where
  arguments := ["--config", "x/../rules.json", "config", "init"]

/-- A tree with a rule file in which there are no rules. -/
def keptTree : FileTree where
  entries := [(["rules.json"], .file "\x7brules: []\x7d")]

/-- A run that is not forced to writes over a file, as the directory on its path is missing. -/
theorem detourRun_writes_over :
    detourRun.WritesTo keptTree ["rules.json"] false "x/../rules.json" ∧
      keptTree.read "rules.json" = .ok "\x7brules: []\x7d" ∧
      (detourRun.filesAfter keptTree).read "rules.json" ≠ .ok "\x7brules: []\x7d" := by
  have invoked : Invocation.ofArguments detourRun.arguments =
      .ok ⟨.ruleFile (.create false), { rulePath := some "x/../rules.json" }⟩ := rfl
  refine ⟨⟨.intro invoked rfl ?_, ?_⟩, ?_, ?_⟩ <;> decide +kernel

end Run

end ReceiptRules
