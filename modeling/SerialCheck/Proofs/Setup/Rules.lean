import SerialCheck.Proofs.Engine.Proper
import SerialCheck.Proofs.Preserved
import SerialCheck.Proofs.Setup.Upkeep

/-!
# Rules stay what they are

Whatever a server is sent changes of its rules only what they have seen (`Session.execute_rules`), and
so does everything that a run sends, before its batch (`Bench.upkeep_actsAs`) and for it
(`Run.preserves_policy`).
-/
namespace SerialCheck

/-- The rules apart from what they have seen. -/
def Server.policy (server : Server) : List Rule := server.rules.map Rule.fresh

/-- A choice among rules changes only what they have seen. -/
theorem Rule.choose_fresh (number : Nat) (text : Value) (rules : List Rule) :
    (choose number text rules).2.map fresh = rules.map fresh := by
  induction rules with
  | nil => rfl
  | cons rule rules hypothesis =>
    rw [choose]
    split
    · rfl
    · rw [List.map_cons, hypothesis, List.map_cons]
    · split
      · rfl
      · rw [List.map_cons, hypothesis, List.map_cons]
        rfl
      · rfl

namespace Server

variable (server : Server) (number : Nat)

@[simp] theorem policy_setConnection (connection : Connection) :
    (server.setConnection number connection).policy = server.policy := rfl

@[simp] theorem policy_addNotices (notices : List Value) :
    (server.addNotices number notices).policy = server.policy := by
  unfold addNotices
  split <;> rfl

@[simp] theorem policy_keepNotices (count : Nat) :
    (server.keepNotices number count).policy = server.policy := by
  unfold keepNotices
  split <;> rfl

@[simp] theorem policy_lose : (server.lose number).policy = server.policy := by
  unfold lose
  split <;> rfl

@[simp] theorem policy_ask (text : Value) : (server.ask number text).2.policy = server.policy := by
  cases text with
  | text text =>
    show (server.askEngine number text).2.policy = server.policy
    unfold askEngine
    split
    · rfl
    · simp only
      generalize Engine.execute _ text = answered
      rfl
  | _ => rfl

@[simp] theorem policy_answer (text : Value) (rule : Rule) :
    (server.answer number text rule).2.policy = server.policy := by
  unfold answer
  split
  · simp
  · rfl
  · simp only
    split
    · simp
    · rfl

/-- Sending a text to a server keeps its rules. -/
@[simp] theorem policy_execute (text : Value) :
    (server.execute number text).2.2.policy = server.policy := by
  have noted : ({ server.note number (.sql text) with
      rules := (Rule.choose number text server.rules).2 } : Server).policy = server.policy :=
    Rule.choose_fresh number text server.rules
  have same : (server.note number (.sql text)).rules = server.rules := rfl
  unfold execute
  simp only [same]
  split
  · exact noted
  · rw [policy_ask]
    exact noted
  · unfold follow
    split
    · exact noted
    · split
      · exact noted
      · rw [policy_answer, policy_addNotices]
        exact noted

end Server

namespace Session

/-- So does sending a text over a session. -/
theorem policy_execute (session : Session) (text : Value) (server : Server) :
    (session.execute text server).2.policy = server.policy := by
  unfold execute
  split
  · rfl
  · split
    · rfl
    · next number _ _ =>
      have kept := server.policy_execute number text
      unfold sendOn
      generalize server.execute number text = executed at kept
      obtain ⟨response, delay, after⟩ := executed
      simp only at kept ⊢
      split
      · rw [collect, Server.policy_keepNotices]
        exact kept
      · exact kept
      · exact kept
      · split
        · exact kept
        · rw [collect, Server.policy_keepNotices]
          exact kept

/-- So does opening a session. -/
theorem policy_connect (address label : String) (timeout : Value) (server : Server) :
    (connect address label timeout server).2.policy = server.policy := by
  have asked : (server.connect address).2.policy = server.policy := by
    unfold Server.connect
    simp only
    split <;> rfl
  unfold connect
  generalize server.connect address = granted at asked
  obtain ⟨granted, reached⟩ := granted
  cases granted with
  | error report => exact asked
  | ok number =>
    simp only
    split
    · exact asked
    · split
      · exact asked
      next text _ =>
        have kept := reached.policy_execute number (.text text)
        generalize reached.execute number (.text text) = executed at kept
        obtain ⟨response, delay, after⟩ := executed
        cases response <;> exact kept.trans asked

end Session

namespace Bench

/-- The bench has the rules, the settings and the time of another one. -/
structure ActsAs (bench other : Bench) : Prop where
  /-- The rules differ by what they have seen at most. -/
  policy : bench.server.policy = other.server.policy
  /-- The settings are the same. -/
  settings : bench.settings = other.settings
  /-- So is the time. -/
  now : bench.now = other.now

/-- Whatever is sent before a batch runs, the rules, the settings and the time are kept. -/
theorem upkeep_actsAs (other : Bench) :
    Upkeep (fun bench => bench.ActsAs other) (fun _ => True) fun _ => True where
  sends := fun bench session text held _ =>
    ⟨⟨(session.policy_execute text bench.server).trans held.policy, held.settings, held.now⟩,
      fun _ _ => trivial⟩
  reads := fun _ _ _ _ _ => ⟨fun _ _ => trivial, fun _ _ _ _ => trivial⟩
  address := fun _ _ _ _ => trivial
  connects := fun bench address label held =>
    ⟨⟨(Session.policy_connect address label _ bench.server).trans held.policy, held.settings, held.now⟩,
      fun _ _ => trivial⟩
  written := fun _ => trivial
  logged := fun _ _ _ _ => trivial
  schema := fun _ _ held => ⟨held.policy, held.settings, held.now⟩
  admin := fun _ _ held => ⟨held.policy, held.settings, held.now⟩
  journal := fun _ _ held => ⟨held.policy, held.settings, held.now⟩
  session := fun _ => trivial

end Bench

/-- A batch begins to run with the rules, the settings and the time of the bench. -/
theorem Run.prepare_actsAs {batch : Batch} {strategy : Strategy} {bench start : Bench}
    (prepared : (prepare batch strategy).Returns bench () start) : start.ActsAs bench :=
  ((Bench.upkeep_actsAs bench).prepare batch strategy).returns bench () start ⟨rfl, rfl, rfl⟩ prepared

/-- The texts of a batch keep the rules. -/
theorem Run.preserves_policy (batch : Batch) (policy : List Rule) :
    batch.Preserves fun scene => scene.server.policy = policy where
  statement := fun scene held transaction _ statement _ =>
    (transaction.session.policy_execute statement.text scene.server).trans held
  rollback := fun scene held transaction _ =>
    (transaction.session.policy_execute (.text Bench.rollbackText) scene.server).trans held

end SerialCheck
