import AccessTrace.Proofs.Command.Shown
import AccessTrace.Proofs.Snapshot.Formats

namespace AccessTrace.Command

variable {files : List Path} {d : Directory} {w w' : Workspace} {config : Config}
  {session : Session}

section Saving

open Workspace

variable {path : Path} {way : String} {format : Format} {store : Store}

theorem change_of_run {f : List UInt8 → List UInt8}
    (run : (onDirectory (Directory.change (·.update path f))).run w = (.ok (), w')) :
    ∃ directory, w.directory.update path f = .ok directory ∧ w' = { w with directory } := by
  rw [run_change] at run
  cases changed : w.directory.update path f with
  | error error =>
    rw [changed] at run
    cases run
  | ok directory =>
    rw [changed] at run
    exact ⟨directory, rfl, (Prod.mk.inj run).2.symm⟩

theorem changes_of_save (place : w.directory.tree.place? path ≠ some (.device .output))
    (run : (store.save (m := StateM Workspace) path format).run w = (.ok (), w')) :
    ∃ created saved, w.directory.update path (fun _ => []) = .ok created ∧
      created.update path (· ++ (Snapshot.ofStore store).encode format) = .ok saved ∧
      w' = { w with directory := saved } := by
  obtain ⟨result, between, creating, rest⟩ := run_bind_iff.mp run
  cases result with
  | error error => cases rest
  | ok =>
    obtain ⟨created, made, rfl⟩ := change_of_run (f := fun _ => []) creating
    obtain ⟨result, after, adding, last⟩ := run_bind_iff.mp rest
    cases result with
    | error error => cases last
    | ok =>
      have place' : created.tree.place? path ≠ some (.device .output) :=
        Directory.tree_update made ▸ place
      have written := run_writing (w := { w with directory := created }) place'
        ((Snapshot.ofStore store).encode format)
        (Directory.change (·.update path (· ++ (Snapshot.ofStore store).encode format)))
      obtain ⟨saved, added, rfl⟩ := change_of_run (written.symm.trans adding)
      exact ⟨created, saved, made, added, (Prod.mk.inj last).2.symm⟩

theorem calm_of_save (calm : Calm files d w) (file : d.tree.way? path = some way)
    (yields : Yields (orFail .save (store.save (m := StateM Workspace) path format)) w () w') :
    path.endsInSlash = false ∧ w'.output = w.output ∧
      Calm files (d.put way ((Snapshot.ofStore store).encode format)) w' := by
  rw [← calm.same.tree] at file
  have place : w.directory.tree.place? path ≠ some (.device .output) := by
    obtain ⟨here, name, place, -⟩ := Directory.way?_eq_some_iff.mp file
    simp [place]
  obtain ⟨created, saved, made, added, rfl⟩ := changes_of_save place (run_of_yields_orFail yields)
  obtain ⟨name, rfl⟩ := Directory.update_eq_ok_of_file file made
  have file' : (w.directory.put way []).tree.way? path = some way := file
  obtain ⟨-, rfl⟩ := Directory.update_eq_ok_of_file file' added
  refine ⟨name, rfl, ⟨calm.same.tree, ?_⟩, calm.log⟩
  intro other member way' leads
  simp only [Directory.find?_put]
  by_cases same : way' = way
  · simp [same]
  · simp [same, calm.same.contents other member way' leads]

end Saving

variable {a : ParseArguments} {way : String} {summary : Summary}

namespace ParseArguments

/-- The files that a parse and what is shown afterwards have to do with. -/
def involved (a : ParseArguments) (file : Option Path) : List Path :=
  a.traceFile :: a.database :: file.toList

end ParseArguments

theorem parsed_of_yields (calm : Calm files d w) (member : a.traceFile ∈ files)
    (whole : a.maxLines = none) (file : d.tree.way? a.database = some way)
    (yields : Yields (runParse a config) w () w') :
    ∃ summary session, Ingests d a.traceFile config summary session ∧
      a.database.endsInSlash = false ∧
      w'.output = w.output ++ (summary.describe ++ "\n" ++ linesText (boundsLines session)) ∧
      Calm files (d.put way ((Snapshot.ofStore session.store).encode a.savedAs)) w' := by
  have limit : { config with maxLines := a.maxLines <|> config.maxLines } = config := by
    rw [whole]
    rfl
  obtain ⟨session, between, reading, rest⟩ := yields_bind_iff.mp yields
  rw [limit] at reading
  obtain ⟨summary, ingests⟩ := ingests_of_yields calm member reading
  obtain ⟨-, told, calm⟩ := (does_ingestTrace ingests member).of_yields calm reading
  obtain ⟨_, saved, saving, rest⟩ := yields_bind_iff.mp rest
  obtain ⟨name, kept, calm⟩ := calm_of_save calm file saving
  obtain ⟨_, logged, logging, printing⟩ := yields_bind_iff.mp rest
  obtain ⟨-, silent, calm⟩ := (does_logAll _).of_yields calm logging
  obtain ⟨-, shown, calm⟩ := (does_printLines _).of_yields calm printing
  refine ⟨summary, session, ingests, name, ?_, calm⟩
  simp only [shown, silent, kept, told, String.append_empty, String.append_assoc]

section Showing

/-- The database can be opened, and what is shown of it is what is shown of the trace. -/
structure Reopens (files : List Path) (d : Directory) (file : Option Path) (trace database : Path)
    (summary : Summary) (bounds : String) : Prop where
  bounds : Shows files d file (.bounds (.database database)) ⟨0, ""⟩ bounds
  hist : ∀ a : HistArguments, ∃ outcome text,
    Shows files d file (.hist { a with input := .database database }) outcome text ∧
      (Shows files d file (.hist { a with input := .trace trace }) outcome
          (summary.describe ++ "\n" ++ text) ∨
        a.bins = some 0 ∧ outcome.code = 1 ∧ text = "" ∧
          Shows files d file (.hist { a with input := .trace trace }) outcome "")

/-- The database cannot be opened, whatever is to be shown of it. -/
def Unopenable (files : List Path) (d : Directory) (file : Option Path) (database : Path) : Prop :=
  ∃ error : LoadError,
    Shows files d file (.bounds (.database database)) (Stop.failed (.load error)).outcome "" ∧
      ∀ a : HistArguments, Shows files d file (.hist { a with input := .database database })
        (Stop.failed (.load error)).outcome ""

variable {file : Option Path} {trace database : Path} {source : Source}

theorem unopenable_of_error {error : LoadError} (known : ConfigIn d file config)
    (members : ∀ path, file = some path → path ∈ files) (member : database ∈ files)
    (opened : d.openFile database = .ok source)
    (refused : Store.ofSource database (.ofPath database) source = .error error) :
    Unopenable files d file database := by
  refine ⟨error, shows_of_stopped known members ?_, fun a => shows_of_stopped known members ?_⟩
  · exact (does_openDatabase_unreadable member opened refused).stopped
  · exact (does_openDatabase_unreadable member opened refused).stopped

/-- Of a valid configuration only the bins that the command line names may be refused. -/
theorem bins_of_refused {store : Store} {a : HistArguments} {error : SessionError}
    (refused : Session.ofStore store (a.configure session.config) = .error error) :
    a.bins = some 0 := by
  obtain ⟨bins, timed⟩ := Config.validate_eq_ok_iff.mp session.valid
  by_contra named
  have bins' : (a.configure session.config).histogramBins ≠ 0 := by
    show a.bins.getD session.config.histogramBins ≠ 0
    cases given : a.bins with
    | none => exact bins
    | some count =>
      rintro rfl
      exact named given
  have valid := Config.validate_eq_ok_iff.mpr ⟨bins', timed⟩
  have begun : Session.ofStore store (a.configure session.config) =
      .ok { store, config := a.configure session.config, period := session.period, valid } :=
    Session.ofStore_eq_ok_iff.mpr ⟨rfl, rfl⟩
  cases begun.symm.trans refused

theorem reopens_of_ok (known : ConfigIn d file config)
    (members : ∀ path, file = some path → path ∈ files) (member : database ∈ files)
    (ingests : Ingests d trace config summary session) (member' : trace ∈ files)
    (opened : d.openFile database = .ok source)
    (loaded : Store.ofSource database (.ofPath database) source = .ok session.store) :
    Reopens files d file trace database summary (linesText (boundsLines session)) where
  bounds := by
    have begun : Session.ofStore session.store config = .ok session :=
      Session.ofStore_eq_ok_iff.mpr ⟨rfl, ingests.config_eq⟩
    refine shows_of_done known members ?_
    exact (does_openDatabase member opened loaded begun).andThen (does_printLines _)
  hist := by
    intro a
    cases begun : Session.ofStore session.store (a.configure config) with
    | error error =>
      have refused : Session.new (a.configure config) = .error error :=
        Session.ofStore_eq_error begun .empty
      obtain ⟨_, _, opened', -⟩ := id ingests
      refine ⟨(Stop.failed (.session error)).outcome, "", shows_of_stopped known members ?_,
        .inr ⟨bins_of_refused (ingests.config_eq ▸ begun), rfl, rfl,
          shows_of_stopped known members ?_⟩⟩
      · exact (does_openDatabase member opened loaded begun).stopped
      · exact (does_ingestTrace_refused member' opened' refused).stopped
    | ok after =>
      obtain ⟨same, changed⟩ := Session.ofStore_eq_ok_iff.mp begun
      have ingests' : Ingests d trace (a.configure config) summary after := by
        rw [← changed]
        exact ingests.reconfigure same (changed ▸ rfl)
      have determined : Determined files d (showHist after a) := determined_showHist after a
      obtain ⟨result, text, shown⟩ := determined
      refine ⟨outcomeOf result, text, shows_of_does known members ?_,
        .inl (shows_of_does known members ?_)⟩
      · rw [← showHist_input after a (.database database)] at shown
        exact (does_openDatabase member opened loaded begun).andThen shown
      · rw [← showHist_input after a (.trace trace)] at shown
        exact (does_ingestTrace ingests' member').bind shown

theorem agreesOn_of_put {others : List Path} {octets : List UInt8}
    (calm : Calm files (d.put way octets) w) (own : d.tree.way? database = some way)
    (apart : ∀ path ∈ others, path ∈ files ∧ d.tree.Apart database path) :
    d.AgreesOn others w.directory := by
  refine ⟨calm.same.tree, fun path member name leads => ?_⟩
  obtain ⟨member', apart'⟩ := apart path member
  have other : name ≠ way := fun same => apart' way own (leads.trans (congrArg some same))
  rw [calm.same.contents path member' name leads, Directory.find?_put, if_neg other]

theorem mem_involved_of_config (a : ParseArguments) :
    ∀ path, file = some path → path ∈ a.involved file := by
  intro path named
  simp [ParseArguments.involved, named]

variable {words : List String} {outcome : Outcome} {after : Workspace}

theorem parsed_of_execute (asked : Asks d.tree (a.involved file) file (.parse a) words)
    (whole : a.maxLines = none) (own : d.tree.way? a.database = some way)
    (ran : Workspace.execute d words = (outcome, after)) (success : outcome.code = 0) :
    ∃ config summary session, ConfigIn d file config ∧
      Ingests d a.traceFile config summary session ∧
      after.output = summary.describe ++ "\n" ++ linesText (boundsLines session) ∧
      a.database.endsInSlash = false ∧
      Calm (a.involved file) (d.put way ((Snapshot.ofStore session.store).encode a.savedAs))
        after := by
  obtain ⟨all, parsed, rfl, command, apartLog⟩ := asked
  have yields : Yields (run all) { directory := d } () after := by
    have yields := yields_of_execute parsed (d := d) (by rw [ran]; exact success)
    rwa [ran] at yields
  have calm : Calm (a.involved all.configFile) d { directory := d } :=
    ⟨.refl _ d, fun _ none => nomatch none⟩
  obtain ⟨config, between, known, calm, started, carried⟩ :=
    carryOut_of_yields calm apartLog (mem_involved_of_config a) yields
  rw [command] at carried
  obtain ⟨summary, session, ingests, name, printed, calm⟩ :=
    parsed_of_yields calm List.mem_cons_self whole own carried
  refine ⟨config, summary, session, known, ingests, ?_, name, calm⟩
  rw [printed, started, String.empty_append]

/-- If a trace has been parsed and saved then its database shows what the trace shows, provided that
it is in the format that its name tells. Otherwise it cannot be opened. -/
theorem shows_of_parse (asked : Asks d.tree (a.involved file) file (.parse a) words)
    (whole : a.maxLines = none) (own : d.tree.way? a.database = some way)
    (apart : ∀ path ∈ a.traceFile :: file.toList, d.tree.Apart a.database path)
    (ran : Workspace.execute d words = (outcome, after)) (success : outcome.code = 0)
    (short : ∀ octets, after.directory.find? way = some octets → octets.length < UInt64.size) :
    ∃ config summary session, ConfigIn d file config ∧
      Ingests d a.traceFile config summary session ∧
      after.output = summary.describe ++ "\n" ++ linesText (boundsLines session) ∧
      if a.savedAs = .ofPath a.database then
        Reopens (a.involved file) after.directory file a.traceFile a.database summary
          (linesText (boundsLines session))
      else Unopenable (a.involved file) after.directory file a.database := by
  obtain ⟨config, summary, session, known, ingests, printed, name, calm⟩ :=
    parsed_of_execute asked whole own ran success
  refine ⟨config, summary, session, known, ingests, printed, ?_⟩
  have traceMember : a.traceFile ∈ a.involved file := List.mem_cons_self
  have member : a.database ∈ a.involved file := List.mem_cons_of_mem _ List.mem_cons_self
  have members : ∀ path, file = some path → path ∈ a.involved file := mem_involved_of_config a
  have saved : after.directory.find? way =
      some ((Snapshot.ofStore session.store).encode a.savedAs) := by
    rw [calm.same.contents _ member way own, Directory.find?_put, if_pos rfl]
  have own' : after.directory.tree.way? a.database = some way := by
    rw [calm.same.tree]
    exact own
  have opened := Directory.openFile_of_file own' name saved
  -- The trace and the configuration are read as before.
  have known' : ConfigIn after.directory file config := by
    refine known.of_agreesOn (agreesOn_of_put calm own fun path given => ?_)
    exact ⟨members path (Option.mem_toList.mp given), apart path (List.mem_cons_of_mem _ given)⟩
  have ingests' : Ingests after.directory a.traceFile config summary session := by
    refine ingests.of_agreesOn (agreesOn_of_put calm own fun path given => ?_)
    cases List.mem_singleton.mp given
    exact ⟨traceMember, apart _ List.mem_cons_self⟩
  split
  · next same =>
    rw [same] at opened
    have settled := ingests.settled
    refine reopens_of_ok known' members member ingests' traceMember opened ?_
    refine Store.ofSource_encode settled.reachable.indexed settled.forward fun binary => ?_
    refine Binary.addressable_of_length ?_
    have length := short _ saved
    rwa [same, binary] at length
  · next other =>
    obtain ⟨error, refused⟩ := Store.ofSource_encode_of_ne other a.database
    exact unopenable_of_error known' members member opened refused

def homeTrace : String :=
  "c clk=5\nmem.new_access name=\"A-1\" type=\"load\" addr=0x10\n" ++
    "mem.new_access name=\"A-2\" type=\"store\" addr=0x20\nmem.end_access name=\"A-x\"\n" ++
    "c clk=9\nmem.end_access name=\"A-1\"\n"

def homeConfig : String := "\x7b\"window_size\":8,\"histogram_bins\":2\x7d"

def home : Directory where
  files :=
    [("runs/trace", Text.utf8 homeTrace), ("/home/user/config", Text.utf8 homeConfig)]
  tree :=
    { places :=
        [(.relative 0 ["runs"], .directory (.relative 0 ["runs"]), 0),
          (.relative 0 ["latest"], .directory (.rooted ["home", "user", "results"]), 1),
          (.rooted ["home"], .directory (.rooted ["home"]), 0),
          (.rooted ["home", "user"], .directory (.rooted ["home", "user"]), 0)] }

def homeParse : ParseArguments :=
  { traceFile := ⟨"runs/trace"⟩, outputFile := some ⟨"latest/d.json"⟩, format := some .json }

def homeFiles : List Path := homeParse.involved (some ⟨"/home/user/config"⟩)

def homeWords : List String :=
  ["--log-file", "runs/log", "--config", "/home/user/config", "parse", "runs/trace",
    "-o", "latest/d.json", "--format", "json"]

def homeHist (input : Input) : HistArguments := { input, cycle := 9, barWidth := 4 }

def homeHistWords : List String :=
  ["--config", "/home/user/config", "hist", "--database", "latest/d.json", "--cycle", "9",
    "--bar-width", "4"]

def homeSummary : Summary := { lines := 6, added := 2, closed := 1, malformed := 1 }

def homeBounds : String := "Accesses: 2\nAddresses: 0x10 - 0x20\nLast cycle: 9\n"

def homeChart : String :=
  "Mem Access Frequency (Cycle 1 - 9), 2 All accesses\n" ++
    "Addresses: 0x10 - 0x20\nBin Size is 0.01 KB\n" ++
    "0x0000000000000010 - 0x0000000000000018 |        1 | ####\n" ++
    "0x0000000000000018 - 0x0000000000000020 |        1 | ####\n"

theorem maxLines_of_home {config : Config}
    (known : ConfigIn home (some ⟨"/home/user/config"⟩) config) : config.maxLines = none := by
  have given : home.openFile ⟨"/home/user/config"⟩ = .ok { octets := Text.utf8 homeConfig } := by
    decide +kernel
  have read : (Config.read { octets := Text.utf8 homeConfig }).toOption.map Config.maxLines =
      some none := by decide +kernel
  cases known with
  | file opened found =>
    obtain rfl := Except.ok.inj (given.symm.trans opened)
    rw [found] at read
    exact Option.some.inj read

def homeIngested : Except IngestError Summary × List Event × Session :=
  (Session.plainly .empty).ingestGrowing (fun _ => []) { octets := Text.utf8 homeTrace }

theorem eq_of_ingests_home {config : Config} {summary : Summary} {session : Session}
    (ingests : Ingests home ⟨"runs/trace"⟩ config summary session)
    (unlimited : config.maxLines = none) :
    summary = homeSummary ∧
      session.store.toList = [⟨⟨1⟩, .load, 0x10, 5, some 9⟩, ⟨⟨2⟩, .store, 0x20, 5, none⟩] ∧
      linesText (boundsLines session) = homeBounds := by
  have opened : home.openFile ⟨"runs/trace"⟩ = .ok { octets := Text.utf8 homeTrace } := by
    decide +kernel
  have same := (Session.plainly .empty).ingestGrowing_silent { octets := Text.utf8 homeTrace }
  rw [ingests.ingestSource_eq opened rfl unlimited.symm, ← homeIngested] at same
  obtain ⟨counted, kept, shown⟩ :
      homeIngested.1.toOption = some homeSummary ∧
        homeIngested.2.2.store.toList =
          [⟨⟨1⟩, .load, 0x10, 5, some 9⟩, ⟨⟨2⟩, .store, 0x20, 5, none⟩] ∧
        linesText (boundsLines homeIngested.2.2) = homeBounds := by decide +kernel
  rw [same] at counted kept shown
  exact ⟨Option.some.inj counted, kept, shown⟩

/-- The parse prints the summary and the bounds, the bounds are shown again of the database, and the
trace shows the same chart. -/
theorem shows_of_parse_home :
    Asks home.tree homeFiles (some ⟨"/home/user/config"⟩) (.parse homeParse) homeWords ∧
      home.tree.way? homeParse.database = some "/home/user/results/d.json" ∧
      (Workspace.execute home homeWords).1.code = 0 ∧
      (Workspace.execute home homeWords).2.output = homeSummary.describe ++ "\n" ++ homeBounds ∧
      homeSummary.describe = "6 lines (1 skipped): 2 accesses added, 1 closed" ∧
      (∃ config session, Ingests home ⟨"runs/trace"⟩ config homeSummary session ∧
        session.store.toList = [⟨⟨1⟩, .load, 0x10, 5, some 9⟩, ⟨⟨2⟩, .store, 0x20, 5, none⟩]) ∧
      Reopens homeFiles (Workspace.execute home homeWords).2.directory
        (some ⟨"/home/user/config"⟩) ⟨"runs/trace"⟩ ⟨"latest/d.json"⟩ homeSummary homeBounds ∧
      Shows homeFiles (Workspace.execute home homeWords).2.directory
        (some ⟨"/home/user/config"⟩) (.hist (homeHist (.database ⟨"latest/d.json"⟩))) ⟨0, ""⟩
        homeChart ∧
      Shows homeFiles (Workspace.execute home homeWords).2.directory
        (some ⟨"/home/user/config"⟩) (.hist (homeHist (.trace ⟨"runs/trace"⟩))) ⟨0, ""⟩
        (homeSummary.describe ++ "\n" ++ homeChart) := by
  have asked : Asks home.tree homeFiles (some ⟨"/home/user/config"⟩) (.parse homeParse)
      homeWords := by
    refine ⟨⟨some ⟨"runs/log"⟩, false, some ⟨"/home/user/config"⟩, .parse homeParse⟩,
      by decide +kernel, rfl, rfl, ?_⟩
    rintro _ ⟨⟩
    decide +kernel
  have askedHist (tree : DirectoryTree) : Asks tree homeFiles (some ⟨"/home/user/config"⟩)
      (.hist (homeHist (.database ⟨"latest/d.json"⟩))) homeHistWords :=
    ⟨⟨none, false, some ⟨"/home/user/config"⟩, _⟩, by decide +kernel, rfl, rfl,
      fun _ none => nomatch none⟩
  have own : home.tree.way? homeParse.database = some "/home/user/results/d.json" := by
    decide +kernel
  have apart : ∀ path ∈ homeParse.traceFile :: [⟨"/home/user/config"⟩],
      home.tree.Apart homeParse.database path := by decide +kernel
  obtain ⟨success, printed, saved⟩ : (Workspace.execute home homeWords).1.code = 0 ∧
      (Workspace.execute home homeWords).2.output =
        homeSummary.describe ++ "\n" ++ homeBounds ∧
      ((Workspace.execute home homeWords).2.directory.find?
        "/home/user/results/d.json").map List.length = some 173 := by decide +kernel
  obtain ⟨outcome, chart⟩ :
      (Workspace.execute (Workspace.execute home homeWords).2.directory homeHistWords).1 =
          ⟨0, ""⟩ ∧
        (Workspace.execute (Workspace.execute home homeWords).2.directory homeHistWords).2.output =
          homeChart := by decide +kernel
  have short : ∀ octets, (Workspace.execute home homeWords).2.directory.find?
      "/home/user/results/d.json" = some octets → octets.length < UInt64.size := by
    intro octets found
    rw [found] at saved
    exact Nat.lt_of_le_of_lt (Option.some.inj saved).le (by decide)
  obtain ⟨config, summary, session, known, ingests, -, reopens⟩ :=
    shows_of_parse asked rfl own apart (Prod.eta _).symm success short
  obtain ⟨rfl, kept, shown⟩ := eq_of_ingests_home ingests (maxLines_of_home known)
  rw [if_pos (by decide +kernel), shown] at reopens
  obtain ⟨_, _, charted, traced | ⟨named, -⟩⟩ := reopens.hist (homeHist (.trace ⟨"runs/trace"⟩))
  · obtain ⟨rfl, rfl⟩ := charted homeHistWords _ (askedHist _) (.refl _ _)
    rw [outcome, chart] at charted traced
    exact ⟨asked, own, success, printed, by decide +kernel, ⟨config, session, ingests, kept⟩,
      reopens, charted, traced⟩
  · cases named

def lone : Directory :=
  { files := [("t", Text.utf8 "c clk=5\nmem.new_access name=\"A-1\" type=\"load\" addr=0x10\n")] }

/-- A document under a name that does not tell so is saved, and then it cannot be opened. -/
theorem unopened_lone_document :
    (Workspace.execute lone ["parse", "t", "-o", "d.db", "--format", "json"]).1.code = 0 ∧
      (Workspace.execute lone ["parse", "t", "-o", "d.db", "--format", "json"]).2.output =
        "2 lines (0 skipped): 1 accesses added, 0 closed\n" ++
          "Accesses: 1\nAddresses: 0x10 - 0x10\nLast cycle: 5\n" ∧
      (Workspace.execute
        (Workspace.execute lone ["parse", "t", "-o", "d.db", "--format", "json"]).2.directory
        ["bounds", "--database", "d.db"]).1.code = 1 ∧
      (Workspace.execute
        (Workspace.execute lone ["parse", "t", "-o", "d.db", "--format", "json"]).2.directory
        ["bounds", "--database", "d.db"]).2.output = "" := by
  decide +kernel

end Showing

end AccessTrace.Command
