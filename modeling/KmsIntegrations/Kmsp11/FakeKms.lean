import KmsIntegrations.Common.Status

/-!
# The POSIX launcher of the fake KMS

The tests of `kmsp11` talk to a fake KMS server. `PosixFakeKms::New`
(`kmsp11/test/fakekms/cpp/fakekms_posix.cc`) starts it:
- it opens a pipe, whose two ends a `Cleanup` closes when `New` returns;
- it forks;
- the child points its standard output at the pipe's write end, closes both ends by hand, and
  replaces itself with the server binary;
- the parent reads the server's address from the pipe with `getline`, and returns a
  `PosixFakeKms` that keeps the child's pid, so that its destructor can send the child `SIGINT`.

The system's answers to this process are a `Posix` record. `getline`'s POSIX contract is a field
of its result (`Getline.terminated`). A run of the launcher is its outcome (`Launch`) and the
calls it made (`Syscall`). `replayFds` replays these calls on the process's descriptor table, and
fails at a use or `close` of a descriptor that is not open, where the code's `CHECK_EQ` would abort.

Main result: `posixFakeKmsNew_fds_spec`. In the parent, on every path, the run uses and closes
only open descriptors and leaves the table it found. In the child, the server is started with
exactly the caller's descriptors open.

The parent reads with `getline` while it still holds the pipe's write end, which its `Cleanup`
closes only when `New` returns. So the read cannot end at end-of-file: `getline` returns the line
the server printed, fails with a read error, or, when the child exits without printing, blocks
for ever. The model keeps the first two answers only.
-/

namespace Kmsp11

open Common

/-- A file descriptor (`int`). -/
abbrev Fd := Int

/-- `pid_t`. -/
abbrev Pid := Int

/-- `STDOUT_FILENO` (`unistd.h`). -/
def STDOUT_FILENO : Fd := 1

/-- `SIGINT` (`signal.h`). -/
def SIGINT : Int := 2

/-- The runfile `New` looks the server binary up by. -/
def fakeKmsRunfile : String := "com_google_kmstools/kmsp11/test/fakekms/main/fakekms_/fakekms"

/-- A plain `absl::Status`, with no `CK_RV` attached. -/
structure AbslStatus where
  code : StatusCode
  message : String
  deriving DecidableEq, Repr

/-- The two ends `pipe(fd)` fills in, `fd[0]` to read and `fd[1]` to write; they are distinct. -/
structure Pipe where
  read : Fd
  write : Fd
  ne : read ≠ write

/-- A successful `getline(&line, &len, file)`: the buffer `*lineptr` of `*n` bytes, and the count
it returned. By POSIX the first `nread` bytes are the line, newline included, followed by a NUL. -/
structure Getline where
  buffer : List Char
  nread : Nat
  terminated : buffer[nread]? = some (Char.ofNat 0)

/-- What the system answers the process running `New`: each call's result, `none` or `false` for
one that failed, `strerror(errno)` after the failing call, and the `RunfileLocation` lookup.
`fork` is what `fork()` returned in this process: `-1`, `0` in the child, the child's pid in the
parent. `getline` is the line read, or `none` for a read error; the call that blocks is not among
the answers. -/
structure Posix where
  pipe : Option Pipe
  fork : Pid
  dup2 : Bool
  execl : Bool
  fdopen : Bool
  getline : Option Getline
  strerror : String
  runfileLocation : String → String

/-- The calls of the launcher that act on descriptors and processes, with the arguments and results
that matter. -/
inductive Syscall
  | pipe (fds : Option (Fd × Fd))
  | fork (pid : Pid)
  | dup2 (oldfd newfd : Fd)
  | close (fd : Fd)
  | execl (path arg0 arg1 : String)
  | exit (status : Int)
  | fdopen (fd : Fd)
  /-- `getline` on the stream `fdopen` opened on `fd`. -/
  | getline (fd : Fd)
  | kill (pid : Pid) (sig : Int)
  deriving DecidableEq, Repr

/-- A `PosixFakeKms`: the base `FakeKms`'s listen address and the child's pid. -/
structure PosixFakeKms where
  listenAddr : String
  pid : Pid
  deriving DecidableEq, Repr

/-- How a call of `New` ends in its process: it returns, the process exits, or `execl` replaces the
process with `path`, run on `argv`. -/
inductive Launch
  | returned (r : Except AbslStatus PosixFakeKms)
  | exited (status : Int)
  | exec (path : String) (argv : List String)

/-! ## The launcher -/

section Launcher
variable (os : Posix)

/-- `PosixErrorToStatus`. -/
def posixErrorToStatus (what : String) : AbslStatus :=
  ⟨.internal, what ++ ": " ++ os.strerror⟩

/-- The `case 0` branch of `New`, in the child. `exit` does not unwind, so the `Cleanup`, destroyed
by hand before `execl`, is not destroyed again. -/
def PosixFakeKms.child (flags : String) (p : Pipe) : Launch × List Syscall :=
  if os.dup2 then
    let binPath := os.runfileLocation fakeKmsRunfile
    let calls := [Syscall.dup2 p.write STDOUT_FILENO, .close p.read, .close p.write,
      .execl binPath binPath flags]
    if os.execl then (.exec binPath [binPath, flags], calls)
    else (.exited 2, calls ++ [.exit 2])
  else (.exited 1, [.dup2 p.write STDOUT_FILENO, .exit 1])

/-- The `default` branch of `New`, in the parent, with the `Cleanup` run as it returns. The address
is `std::string(line, len)`: `len` bytes from `line`. -/
def PosixFakeKms.parent (p : Pipe) : Launch × List Syscall :=
  let cleanup := [Syscall.close p.read, .close p.write]
  if os.fdopen then
    match os.getline with
    | none => (.returned (.error (posixErrorToStatus os "failure reading address")),
        [.fdopen p.read, .getline p.read] ++ cleanup)
    | some g => (.returned (.ok ⟨String.mk g.buffer, os.fork⟩),
        [.fdopen p.read, .getline p.read] ++ cleanup)
  else (.returned (.error (posixErrorToStatus os "error opening pipe")), [.fdopen p.read] ++ cleanup)

/-- The `switch (pid)` of `New` after the fork, with the `Cleanup` run on the failure's return. -/
def PosixFakeKms.forked (flags : String) (p : Pipe) : Launch × List Syscall :=
  if os.fork = -1 then
    (.returned (.error (posixErrorToStatus os "failure forking")), [.close p.read, .close p.write])
  else if os.fork = 0 then PosixFakeKms.child os flags p
  else PosixFakeKms.parent os p

/-- `PosixFakeKms::New`. -/
def PosixFakeKms.new (flags : String) : Launch × List Syscall :=
  match os.pipe with
  | none => (.returned (.error (posixErrorToStatus os "unable to create output pipe")), [.pipe none])
  | some p =>
    let run := PosixFakeKms.forked os flags p
    (run.1, .pipe (some (p.read, p.write)) :: .fork os.fork :: run.2)

/-- `~PosixFakeKms`. -/
def PosixFakeKms.destroy (fake : PosixFakeKms) : List Syscall :=
  [.kill fake.pid SIGINT]

/-- `FakeKms::New`: `PosixFakeKms::New`, its result moved into a `FakeKms` pointer. -/
def FakeKms.new (flags : String) : Launch × List Syscall :=
  PosixFakeKms.new os flags

end Launcher

/-! ## The descriptor table -/

/-- One call on the table of open descriptors: `none` when it uses or closes a descriptor that is
not open. -/
def Syscall.stepFds : Syscall → List Fd → Option (List Fd)
  | .pipe (some (r, w)), fds => some (r :: w :: fds)
  | .dup2 oldfd newfd, fds => if oldfd ∈ fds then some (if newfd ∈ fds then fds else newfd :: fds)
      else none
  | .close fd, fds => if fd ∈ fds then some (fds.erase fd) else none
  | .fdopen fd, fds | .getline fd, fds => if fd ∈ fds then some fds else none
  | _, fds => some fds

/-- A run's calls replayed on the table. -/
def replayFds : List Syscall → List Fd → Option (List Fd)
  | [], fds => some fds
  | c :: cs, fds => (c.stepFds fds).bind (replayFds cs)

section Replay
variable {fd : Fd} {fds : List Fd}

@[simp] theorem replayFds_nil : replayFds [] fds = some fds := rfl

@[simp] theorem replayFds_pipe (r w : Fd) (cs : List Syscall) :
    replayFds (.pipe (some (r, w)) :: cs) fds = replayFds cs (r :: w :: fds) := rfl

@[simp] theorem replayFds_pipe_none (cs : List Syscall) :
    replayFds (.pipe none :: cs) fds = replayFds cs fds := rfl

@[simp] theorem replayFds_fork (pid : Pid) (cs : List Syscall) :
    replayFds (.fork pid :: cs) fds = replayFds cs fds := rfl

@[simp] theorem replayFds_close_of_mem (h : fd ∈ fds) (cs : List Syscall) :
    replayFds (.close fd :: cs) fds = replayFds cs (fds.erase fd) := by
  simp [replayFds, Syscall.stepFds, h]

@[simp] theorem replayFds_fdopen_of_mem (h : fd ∈ fds) (cs : List Syscall) :
    replayFds (.fdopen fd :: cs) fds = replayFds cs fds := by
  simp [replayFds, Syscall.stepFds, h]

@[simp] theorem replayFds_getline_of_mem (h : fd ∈ fds) (cs : List Syscall) :
    replayFds (.getline fd :: cs) fds = replayFds cs fds := by
  simp [replayFds, Syscall.stepFds, h]

@[simp] theorem replayFds_dup2_of_mem (h : fd ∈ fds) {newfd : Fd} (hn : newfd ∈ fds)
    (cs : List Syscall) : replayFds (.dup2 fd newfd :: cs) fds = replayFds cs fds := by
  simp [replayFds, Syscall.stepFds, h, hn]

@[simp] theorem replayFds_execl (path arg0 arg1 : String) (cs : List Syscall) :
    replayFds (.execl path arg0 arg1 :: cs) fds = replayFds cs fds := rfl

@[simp] theorem replayFds_exit (status : Int) (cs : List Syscall) :
    replayFds (.exit status :: cs) fds = replayFds cs fds := rfl

theorem replayFds_append (cs cs' : List Syscall) :
    replayFds (cs ++ cs') fds = (replayFds cs fds).bind (replayFds cs') := by
  induction cs generalizing fds with
  | nil => rfl
  | cons c cs ih =>
    simp only [List.cons_append, replayFds]
    cases c.stepFds fds <;> simp [ih]

/-- The `Cleanup` closes the two ends the pipe opened, and the table is the one before the pipe. -/
theorem replayFds_cleanup (p : Pipe) :
    replayFds [.close p.read, .close p.write] (p.read :: p.write :: fds) = some fds := by
  simp

end Replay

/-! ## Descriptors in both processes -/

section Runs
variable (os : Posix) (flags : String) (p : Pipe) {fds : List Fd}

/-- `New` past a successful `pipe`: the pipe, the fork, then the branch `fork`'s result selects. -/
theorem PosixFakeKms.new_of_pipe (hpipe : os.pipe = some p) :
    PosixFakeKms.new os flags = ((PosixFakeKms.forked os flags p).1,
      .pipe (some (p.read, p.write)) :: .fork os.fork :: (PosixFakeKms.forked os flags p).2) := by
  simp only [PosixFakeKms.new, hpipe]

/-- The parent's branch uses the read end while both ends are open, and its `Cleanup` closes them. -/
theorem replayFds_parent :
    replayFds (PosixFakeKms.parent os p).2 (p.read :: p.write :: fds) = some fds := by
  unfold PosixFakeKms.parent
  split
  · split <;> simp
  · simp

/-- The child's branch: with standard output open, it closes both ends before `execl`, and
otherwise exits with both still open. -/
theorem replayFds_child (hout : STDOUT_FILENO ∈ fds) :
    replayFds (PosixFakeKms.child os flags p).2 (p.read :: p.write :: fds) =
      if os.dup2 then some fds else some (p.read :: p.write :: fds) := by
  unfold PosixFakeKms.child
  have hw : p.write ∈ p.read :: p.write :: fds := by simp
  have ho : STDOUT_FILENO ∈ p.read :: p.write :: fds := by simp [hout]
  split <;> [split; skip] <;> simp [replayFds_append, hw, ho]

end Runs

/-- Descriptors of a run of `New`. In the parent, on every path, the run uses and closes only open
descriptors, and leaves the table it found: the `Cleanup` closes both ends of the pipe whatever
`New` returns. In the child, with standard output open, the run never touches a closed descriptor,
and the server binary `execl` starts has exactly the caller's descriptors open. -/
theorem posixFakeKmsNew_fds_spec (os : Posix) (flags : String) (fds : List Fd) :
    (os.fork ≠ 0 → replayFds (PosixFakeKms.new os flags).2 fds = some fds) ∧
    (os.fork = 0 → STDOUT_FILENO ∈ fds →
      (replayFds (PosixFakeKms.new os flags).2 fds).isSome ∧
      ∀ path argv, (PosixFakeKms.new os flags).1 = .exec path argv →
        replayFds (PosixFakeKms.new os flags).2 fds = some fds) := by
  cases hpipe : os.pipe with
  | none => simp [PosixFakeKms.new, hpipe]
  | some p =>
    rw [PosixFakeKms.new_of_pipe os flags p hpipe]
    refine ⟨fun hparent => ?_, fun hchild hout => ?_⟩
    · by_cases hfork : os.fork = -1
      · simp [PosixFakeKms.forked, hfork, replayFds_cleanup]
      · simp [PosixFakeKms.forked, hfork, hparent, replayFds_parent]
    · have hforked : PosixFakeKms.forked os flags p = PosixFakeKms.child os flags p := by
        simp [PosixFakeKms.forked, hchild]
      simp only [hforked, replayFds_pipe, replayFds_fork, replayFds_child os flags p hout]
      cases hd : os.dup2
      · simp [PosixFakeKms.child, hd]
      · simp

/-- The descriptors of both processes of one fork that starts the server, when the parent's read
fails with an I/O error. -/
theorem posixFakeKmsNew_fds_spec_started :
    let parent : Posix := ⟨some ⟨3, 4, by decide⟩, 42, true, true, true, none, "Input/output error", id⟩
    let child : Posix := { parent with fork := 0 }
    replayFds (PosixFakeKms.new parent "").2 [0, 1, 2] = some [0, 1, 2] ∧
      replayFds (PosixFakeKms.new child "").2 [0, 1, 2] = some [0, 1, 2] := by
  intro parent child
  exact ⟨(posixFakeKmsNew_fds_spec parent "" [0, 1, 2]).1 (by decide),
    ((posixFakeKmsNew_fds_spec child "" [0, 1, 2]).2 rfl (by decide)).2 _ _ rfl⟩

end Kmsp11
