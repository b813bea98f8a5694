import ClassDiagram.Plan

/-! # Plans in a world

A world is all that a plan can see and change. Its files lie at places, and any text may be a path
that leads to one. Writing replaces a whole file or fails with nothing changed; which of the two
happens is left open.
-/

namespace ClassDiagram

inductive Node
  | file (bytes : ByteArray)
  | folder

/-- Files and folders at numbered places. Several paths may lead to one place, also to a free one,
and a path leads nowhere if anything is in the way. Readers and writers may meet faults of any
kind. -/
structure FileSystem where
  place? : String → Option Nat
  node? : Nat → Option Node
  readFault? : String → Option SystemFault
  writeFault? : String → ByteArray → Option SystemFault

namespace FileSystem

def leads (fs : FileSystem) (path : String) : Bool :=
  ((fs.place? path).bind fs.node?).isSome

def read (fs : FileSystem) (path : String) : Except SystemFault ByteArray :=
  match fs.readFault? path, (fs.place? path).bind fs.node? with
  | some fault, _ => .error fault
  | none, some (.file bytes) => .ok bytes
  | none, some .folder => .error .isAFolder
  | none, none => .error .absent

def put (fs : FileSystem) (place : Nat) (bytes : ByteArray) : FileSystem :=
  { fs with node? := fun p => if p = place then some (.file bytes) else fs.node? p }

/-- Puts the bytes in place of what the file held before, or makes a new file. -/
def write (fs : FileSystem) (path : String) (bytes : ByteArray) : Except SystemFault FileSystem :=
  match fs.writeFault? path bytes, fs.place? path with
  | some fault, _ => .error fault
  | none, none => .error .absent
  | none, some place =>
    match fs.node? place with
    | some .folder => .error .isAFolder
    | _ => .ok (fs.put place bytes)

/-- Afterwards the path leads to a file with these bytes. All other files and folders, and the ways
to them, are as before. -/
structure Replaces (before after : FileSystem) (path : String) (bytes : ByteArray) : Prop where
  file : ∃ place, before.place? path = some place ∧ after.node? place = some (.file bytes) ∧
    ∀ other, other ≠ place → after.node? other = before.node? other
  paths : after.place? = before.place?

/-- The files of a list, each under the paths that lead to it, with one fault for all writers. -/
def ofFiles (files : List (List String × ByteArray)) (fault? : Option SystemFault) :
    FileSystem where
  place? path := files.findIdx? (·.1.contains path)
  node? place := files[place]?.map fun f => .file f.2
  readFault? _ := none
  writeFault? _ _ := fault?

variable {fs after : FileSystem} {path : String} {bytes : ByteArray}

theorem leads_of_read_eq_ok (h : fs.read path = .ok bytes) : fs.leads path = true := by
  unfold read at h
  unfold leads
  cases hnode : (fs.place? path).bind fs.node? with
  | some node => rfl
  | none => cases hfault : fs.readFault? path <;> simp [hnode, hfault] at h

theorem replaces_of_write_eq_ok (h : fs.write path bytes = .ok after) :
    fs.Replaces after path bytes := by
  unfold write at h
  cases hfault : fs.writeFault? path bytes with
  | some fault => simp [hfault] at h
  | none =>
    cases hplace : fs.place? path with
    | none => simp [hfault, hplace] at h
    | some place =>
      simp only [hfault, hplace] at h
      split at h
      · cases h
      · cases h
        exact ⟨⟨place, hplace, if_pos rfl, fun other hother => if_neg hother⟩, rfl⟩

end FileSystem

/-- What a plan meets. How a logger writes an event down is left open. -/
structure World where
  files : FileSystem
  settings : String → Option String
  logger? : Option Logger
  entry : Logger → LogEvent → String
  output : String
  errors : String

namespace World

/-- A world with these files and nothing else. -/
def ofFiles (files : List (List String × ByteArray)) (fault? : Option SystemFault) : World :=
  ⟨.ofFiles files fault?, fun _ => none, none, fun _ _ => "", "", ""⟩

def logged (w : World) (event : LogEvent) : String :=
  match w.logger? with
  | some logger => w.entry logger event
  | none => ""

def host : Host (StateM World) where
  print text := modify fun w => { w with output := w.output ++ text }
  say text := modify fun w => { w with errors := w.errors ++ text }
  ask setting := return (← get).settings setting
  install level format w :=
    match Logger.install w.logger? level format with
    | .ok logger => (.ok (), { w with logger? := some logger })
    | .error e => (.error e, w)
  log event := modify fun w => { w with errors := w.errors ++ w.logged event }
  look path := return (← get).files.leads path
  read path := return (← get).files.read path
  write path bytes w :=
    match w.files.write path bytes with
    | .ok files => (.ok (), { w with files := files })
    | .error fault => (.error fault, w)

/-- The same files, and the same text on the standard output. -/
def Agrees (v w : World) : Prop :=
  v.files = w.files ∧ v.output = w.output

theorem Agrees.refl (w : World) : w.Agrees w :=
  ⟨rfl, rfl⟩

end World

namespace Plan

/-- The exit code of a plan, and the world after it. -/
def run (p : Plan) (w : World) : Nat × World :=
  (p.carryOut World.host).run w

section Steps

variable (w : World) (p : Plan)

@[simp] theorem run_finish (code : Nat) : (finish code).run w = (code, w) :=
  rfl

@[simp] theorem run_print (text : String) :
    (print text p).run w = p.run { w with output := w.output ++ text } :=
  rfl

@[simp] theorem run_say (text : String) :
    (say text p).run w = p.run { w with errors := w.errors ++ text } :=
  rfl

@[simp] theorem run_ask (setting : String) (next : Option String → Plan) :
    (ask setting next).run w = (next (w.settings setting)).run w :=
  rfl

@[simp] theorem run_log (event : LogEvent) :
    (log event p).run w = p.run { w with errors := w.errors ++ w.logged event } :=
  rfl

@[simp] theorem run_look (path : String) (next : Bool → Plan) :
    (look path next).run w = (next (w.files.leads path)).run w :=
  rfl

@[simp] theorem run_read (path : String) (next : Except SystemFault ByteArray → Plan) :
    (read path next).run w = (next (w.files.read path)).run w :=
  rfl

theorem run_install (level format : String) (next : Except LogFailure Unit → Plan) :
    ∃ answer logger?,
      (install level format next).run w = (next answer).run { w with logger? := logger? } := by
  cases h : Logger.install w.logger? level format with
  | ok logger =>
    refine ⟨.ok (), some logger, ?_⟩
    simp [run, carryOut, World.host, h, StateT.run, bind, StateT.bind]
  | error e =>
    refine ⟨.error e, w.logger?, ?_⟩
    simp [run, carryOut, World.host, h, StateT.run, bind, StateT.bind]

theorem run_write_of_ok {path : String} {bytes : ByteArray} {files : FileSystem}
    (h : w.files.write path bytes = .ok files) (next : Except SystemFault Unit → Plan) :
    (write path bytes next).run w = (next (.ok ())).run { w with files := files } := by
  simp [run, carryOut, World.host, h, StateT.run, bind, StateT.bind]

theorem run_write_of_error {path : String} {bytes : ByteArray} {fault : SystemFault}
    (h : w.files.write path bytes = .error fault) (next : Except SystemFault Unit → Plan) :
    (write path bytes next).run w = (next (.error fault)).run w := by
  simp [run, carryOut, World.host, h, StateT.run, bind, StateT.bind]

end Steps

/-- The first plan takes the steps of the second one, and between them it may talk, log, and look at
its settings. -/
inductive ActsAs : Plan → Plan → Prop
  | finish (code : Nat) : ActsAs (finish code) (finish code)
  | print {text : String} {p q : Plan} (rest : ActsAs p q) : ActsAs (print text p) (print text q)
  | look {path : String} {p q : Bool → Plan} (rest : ∀ answer, ActsAs (p answer) (q answer)) :
      ActsAs (look path p) (look path q)
  | read {path : String} {p q : Except SystemFault ByteArray → Plan}
      (rest : ∀ answer, ActsAs (p answer) (q answer)) : ActsAs (read path p) (read path q)
  | write {path : String} {bytes : ByteArray} {p q : Except SystemFault Unit → Plan}
      (rest : ∀ answer, ActsAs (p answer) (q answer)) :
      ActsAs (write path bytes p) (write path bytes q)
  | say {text : String} {p q : Plan} (rest : ActsAs p q) : ActsAs (say text p) q
  | log {event : LogEvent} {p q : Plan} (rest : ActsAs p q) : ActsAs (log event p) q
  | ask {setting : String} {p : Option String → Plan} {q : Plan}
      (rest : ∀ answer, ActsAs (p answer) q) : ActsAs (ask setting p) q
  | install {level format : String} {p : Except LogFailure Unit → Plan} {q : Plan}
      (rest : ∀ answer, ActsAs (p answer) q) : ActsAs (install level format p) q

/-- A plan that acts as another comes to the same end with the same files and the same output. -/
theorem ActsAs.run {p q : Plan} (h : ActsAs p q) {v w : World} (hvw : v.Agrees w) :
    (p.run v).1 = (q.run w).1 ∧ (p.run v).2.Agrees (q.run w).2 := by
  induction h generalizing v w with
  | finish code =>
    rw [run_finish, run_finish]
    exact ⟨rfl, hvw⟩
  | print _ ih =>
    rw [run_print, run_print]
    exact ih ⟨hvw.1, congrArg (· ++ _) hvw.2⟩
  | look _ ih =>
    rw [run_look, run_look, hvw.1]
    exact ih _ hvw
  | read _ ih =>
    rw [run_read, run_read, hvw.1]
    exact ih _ hvw
  | @write path bytes p q _ ih =>
    cases hw : w.files.write path bytes with
    | error fault =>
      rw [run_write_of_error w hw, run_write_of_error v (hvw.1 ▸ hw)]
      exact ih _ hvw
    | ok files =>
      rw [run_write_of_ok w hw, run_write_of_ok v (hvw.1 ▸ hw)]
      exact ih _ ⟨rfl, hvw.2⟩
  | say _ ih =>
    rw [run_say]
    exact ih hvw
  | log _ ih =>
    rw [run_log]
    exact ih hvw
  | ask _ ih =>
    rw [run_ask]
    exact ih _ hvw
  | install _ ih =>
    obtain ⟨answer, logger?, hrun⟩ := run_install v _ _ _
    rw [hrun]
    exact ih answer hvw

end Plan

end ClassDiagram
