/-
What is played from a file of commands.

The console echoes a line before it shows what the turn does, and asks between two
turns whether the game goes on.  Put together, what it shows is the transcript of
the game, every record behind the line that was entered.
-/
import TextAdventure.Proofs.Play.Displayed
import TextAdventure.Proofs.Script.Directions

namespace TextAdventure

open Text

theorem Shown.renderAll_append (shown more : List Shown) :
    Shown.renderAll (shown ++ more) = Shown.renderAll shown ++ Shown.renderAll more := by
  rw [Shown.renderAll, List.map_append, String.join_append]
  rfl

/-! ## Commands entered one by one -/

namespace Game

/-- What comes of commands that are entered one after the other. -/
def enter (g : Game) (commands : List Command) : Session := g.session (commands.map .turn)

/-- Whether a run that has played so many turns takes the first `n` of the commands
and no more.  Nothing has failed before any of them and the run does not stop there,
and behind the last of them no command is left, or its turn has failed, or the run
stops. -/
structure Takes (g : Game) (played : Nat) (commands : List Command) (n : Nat) : Prop where
  le : n ≤ commands.length
  goesOn : ∀ k < n, (g.enter (commands.take k)).faults = [] ∧
    (g.enter (commands.take k)).game.stops (played + k) = false
  ends : n = commands.length ∨ (g.enter (commands.take n)).faults ≠ [] ∨
    (g.enter (commands.take n)).game.stops (played + n) = true

variable {g : Game} {played n : Nat} {command : Command} {commands : List Command}

theorem enter_cons_of_ok {outcome : Outcome} (h : (g.takeTurn command).result = .ok outcome)
    (commands : List Command) :
    (g.enter (command :: commands)).faults = ((g.takeTurn command).game.enter commands).faults ∧
    (g.enter (command :: commands)).game = ((g.takeTurn command).game.enter commands).game := by
  refine ⟨?_, rfl⟩
  show faultsOf (g.takeTurn command).result ++ _ = _
  rw [h]
  rfl

theorem Takes.cons {outcome : Outcome} (hstops : g.stops played = false)
    (hturn : (g.takeTurn command).result = .ok outcome)
    (h : (g.takeTurn command).game.Takes (played + 1) commands n) :
    g.Takes played (command :: commands) (n + 1) where
  le := Nat.succ_le_succ h.le
  goesOn k hk := by
    cases k with
    | zero => exact ⟨rfl, hstops⟩
    | succ k =>
      obtain ⟨hfaults, hgame⟩ := enter_cons_of_ok hturn (commands.take k)
      have hcount : played + (k + 1) = played + 1 + k := by omega
      rw [List.take_succ_cons, hfaults, hgame, hcount]
      exact h.goesOn k (Nat.lt_of_succ_lt_succ hk)
  ends := by
    obtain ⟨hfaults, hgame⟩ := enter_cons_of_ok hturn (commands.take n)
    have hcount : played + (n + 1) = played + 1 + n := by omega
    rw [List.take_succ_cons, hfaults, hgame, hcount, List.length_cons]
    exact h.ends.imp_left (congrArg Nat.succ)

theorem Takes.unique {n' : Nat} (h : g.Takes played commands n)
    (h' : g.Takes played commands n') : n = n' := by
  have hle : ∀ {n n' : Nat}, g.Takes played commands n → g.Takes played commands n' → n' ≤ n := by
    intro n n' h h'
    refine Nat.le_of_not_lt fun hlt => ?_
    obtain ⟨hfaults, hstops⟩ := h'.goesOn n hlt
    rcases h.ends with hall | hfailed | hstopped
    · have hle := h'.le
      omega
    · exact hfailed hfaults
    · rw [hstops] at hstopped
      cases hstopped
  exact Nat.le_antisymm (hle h' h) (hle h h')

end Game

/-! ## Files of commands -/

namespace Console

/-- What the lines of a file enter, up to one that cannot be read: each that is not
blank, without the blanks around it. -/
def entries : List Line → List String
  | .ok text :: rest => if trim text = "" then entries rest else trim text :: entries rest
  | _ => []

/-- Why the lines of a file cannot be read to the end, if they cannot. -/
def obstacle : List Line → Option Unreadable
  | .ok _ :: rest => obstacle rest
  | .error cause :: _ => some cause
  | [] => none

/-- A line as it is echoed, and behind it what its turn has put out. -/
def exchange (line : String) (record : Record) : String := s!"> {line}\n" ++ record.output

/-- Whether a run of a game takes the first `n` of the lines that enter something,
leaves these records, and shows the one with the other. -/
structure Retells (v : Vocabulary) (g : Game) (played : Nat) (lines : List Line) (r : Ran)
    (n : Nat) (records : List Record) : Prop where
  takes : g.Takes played ((entries lines).map v.parse) n
  game : r.game = (g.enter (((entries lines).map v.parse).take n)).game
  past : r.game.past = records.reverse ++ g.past
  length : records.length = n
  shown : Shown.renderAll r.shown = String.join (List.zipWith exchange (entries lines) records)
  /-- A turn that fails is on record, but does not count as played. -/
  counted : r.fault = none → r.played = played + n
  /-- What the run does not reach cannot make it fail. -/
  fault : r.fault = none ↔ (g.enter (((entries lines).map v.parse).take n)).faults = [] ∧
    (obstacle lines = none ∨
      (g.enter (((entries lines).map v.parse).take n)).game.stops (played + n) = true)

section

variable {v : Vocabulary} {g : Game} {played n : Nat} {text : String} {command : Command}
  {echo : List Shown} {rest lines : List Line} {r : Ran} {records : List Record}

theorem trim_of_not_taken (h : (Input.console v false).take text = none) : trim text = "" := by
  rw [Input.console] at h
  dsimp only at h
  split at h
  · next hblank => exact hblank
  · cases h

theorem trim_of_taken (h : (Input.console v false).take text = some (echo, command)) :
    trim text ≠ "" ∧ echo = [.text s!"> {trim text}\n"] ∧ command = v.parse (trim text) := by
  rw [Input.console] at h
  dsimp only at h
  split at h
  · cases h
  · next hfull =>
    obtain ⟨hecho, hcommand⟩ := Prod.mk.inj (Option.some.inj h)
    exact ⟨hfull, hecho.symm, hcommand.symm⟩

theorem entries_of_blank (h : trim text = "") (rest : List Line) :
    entries (.ok text :: rest) = entries rest := by
  rw [entries, if_pos h]

theorem entries_of_full (h : trim text ≠ "") (rest : List Line) :
    entries (.ok text :: rest) = trim text :: entries rest := by
  rw [entries, if_neg h]

theorem obstacle_of_text (text : String) : obstacle (linesOfBytes (encode text)) = none := by
  rw [linesOfBytes_encode]
  induction charLines text.toList with
  | nil => rfl
  | cons line rest ih => exact ih

namespace Retells

/-- A run that takes nothing leaves no record. -/
theorem nothing (hgame : r.game = g) (hshown : r.shown = []) (hplayed : r.played = played)
    (hends : entries lines = [] ∨ g.stops played = true)
    (hfault : r.fault = none ↔ obstacle lines = none ∨ g.stops played = true) :
    Retells v g played lines r 0 [] where
  takes :=
    { le := Nat.zero_le _
      goesOn := fun k hk => absurd hk (Nat.not_lt_zero k)
      ends := by
        rcases hends with hnone | hstops
        · rw [hnone]
          exact .inl rfl
        · exact .inr (.inr hstops) }
  game := hgame
  past := by rw [hgame]; rfl
  length := rfl
  shown := by
    rw [hshown, List.zipWith_nil_right]
    rfl
  counted _ := hplayed
  fault := hfault.trans (and_iff_right rfl).symm

theorem skipped (hblank : trim text = "") (h : Retells v g played rest r n records) :
    Retells v g played (.ok text :: rest) (r.after []) n records := by
  have hentries := entries_of_blank hblank rest
  exact
    { takes := by rw [hentries]; exact h.takes
      game := by rw [hentries]; exact h.game
      past := h.past
      length := h.length
      shown := by rw [hentries]; exact h.shown
      counted := h.counted
      fault := by rw [hentries]; exact h.fault }

/-- What is shown for a line is its echo and then what its turn puts out. -/
theorem render_exchange {record : Record} {shown : List Shown}
    (houtput : record.output = Shown.renderAll shown) (line : String) (more : List Shown) :
    Shown.renderAll (([] ++ [.text s!"> {line}\n"] ++ shown) ++ more) =
      exchange line record ++ Shown.renderAll more := by
  have hecho : Shown.renderAll [.text s!"> {line}\n"] = s!"> {line}\n" := by
    rw [Shown.renderAll, List.map_singleton, String.join_cons, String.join_nil, String.append_empty]
    rfl
  rw [Shown.renderAll_append, List.nil_append, Shown.renderAll_append, hecho, exchange, houtput]

theorem turn (hstops : g.stops played = false) (hfull : trim text ≠ "") {record : Record}
    {outcome : Outcome} (hturn : (g.takeTurn (v.parse (trim text))).result = .ok outcome)
    (hbegun : (g.takeTurn (v.parse (trim text))).Begun g record)
    (h : Retells v (g.takeTurn (v.parse (trim text))).game (played + 1) rest r n records) :
    Retells v g played (.ok text :: rest)
      (r.after ([] ++ [.text s!"> {trim text}\n"] ++ (g.takeTurn (v.parse (trim text))).shown))
      (n + 1) (record :: records) := by
  have hentries := entries_of_full hfull rest
  obtain ⟨hfaults, hgame⟩ :=
    Game.enter_cons_of_ok hturn (((entries rest).map v.parse).take n)
  have hcount : played + (n + 1) = played + 1 + n := by omega
  exact
    { takes := by
        rw [hentries, List.map_cons]
        exact h.takes.cons hstops hturn
      game := by
        rw [hentries, List.map_cons, List.take_succ_cons, hgame]
        exact h.game
      past := by
        show r.game.past = _
        rw [List.reverse_cons, List.append_assoc, List.singleton_append, ← hbegun.past]
        exact h.past
      length := congrArg Nat.succ h.length
      shown := by
        rw [hentries, List.zipWith_cons_cons, String.join_cons, ← h.shown]
        exact render_exchange hbegun.tells.output _ _
      counted := by
        rw [hcount]
        exact h.counted
      fault := by
        rw [hentries, List.map_cons, List.take_succ_cons, hfaults, hgame, hcount]
        exact h.fault }

theorem failed (hstops : g.stops played = false) (hfull : trim text ≠ "") {record : Record}
    {fault : Fault} (hturn : (g.takeTurn (v.parse (trim text))).result = .error fault)
    (hbegun : (g.takeTurn (v.parse (trim text))).Begun g record) :
    Retells v g played (.ok text :: rest)
      ⟨played, some fault,
        [] ++ [.text s!"> {trim text}\n"] ++ (g.takeTurn (v.parse (trim text))).shown, rest,
        (g.takeTurn (v.parse (trim text))).game⟩ 1 [record] := by
  have hentries := entries_of_full hfull rest
  have htake : ((entries (.ok text :: rest)).map v.parse).take 1 = [v.parse (trim text)] := by
    rw [hentries]
    rfl
  have hfaults : (g.enter [v.parse (trim text)]).faults = [fault] := by
    show faultsOf (g.takeTurn (v.parse (trim text))).result ++ [] = [fault]
    rw [hturn]
    rfl
  have hne : (g.enter [v.parse (trim text)]).faults ≠ [] := by
    rw [hfaults]
    exact List.cons_ne_nil _ _
  exact
    { takes :=
        { le := by
            rw [hentries]
            exact Nat.succ_le_succ (Nat.zero_le _)
          goesOn := fun k hk => by
            obtain rfl : k = 0 := Nat.lt_one_iff.1 hk
            exact ⟨rfl, hstops⟩
          ends := by
            rw [htake]
            exact .inr (.inl hne) }
      game := by rw [htake]; rfl
      past := hbegun.past
      length := rfl
      shown := by
        have hshown := render_exchange hbegun.tells.output (trim text) []
        rw [List.append_nil] at hshown
        rw [hentries, List.zipWith_cons_cons, List.zipWith_nil_right, String.join_cons]
        exact hshown
      counted := fun hdone => absurd hdone (Option.some_ne_none fault)
      fault := by
        rw [htake]
        exact iff_of_false (Option.some_ne_none fault) fun hdone => hne hdone.1 }

end Retells

/-- A run over the lines of a file retells the turns that it takes. -/
theorem exists_retells (h : Goes (.console v false) g played lines r) :
    ∃ n records, Retells v g played lines r n records := by
  induction h with
  | stopped hstops =>
    exact ⟨0, [], .nothing rfl rfl rfl (.inr hstops) (iff_of_true rfl (.inr hstops))⟩
  | exhausted _ => exact ⟨0, [], .nothing rfl rfl rfl (.inl rfl) (iff_of_true rfl (.inl rfl))⟩
  | unreadable hstops cause =>
    refine ⟨0, [], .nothing rfl rfl rfl (.inl rfl) (iff_of_false (Option.some_ne_none _) ?_)⟩
    rintro (hnone | hstopped)
    · cases hnone
    · rw [hstops] at hstopped
      cases hstopped
  | skipped _ htake _ ih =>
    obtain ⟨n, records, hrest⟩ := ih
    exact ⟨n, records, hrest.skipped (trim_of_not_taken htake)⟩
  | turn hstops htake hturn _ ih =>
    obtain ⟨n, records, hrest⟩ := ih
    obtain ⟨hfull, rfl, rfl⟩ := trim_of_taken htake
    obtain ⟨record, hbegun⟩ := Game.begun_takeTurn (Game.running_of_stops hstops) _
    exact ⟨n + 1, record :: records, hrest.turn hstops hfull hturn hbegun⟩
  | failed hstops htake hturn _ =>
    obtain ⟨hfull, rfl, rfl⟩ := trim_of_taken htake
    obtain ⟨record, hbegun⟩ := Game.begun_takeTurn (Game.running_of_stops hstops) _
    exact ⟨1, [record], .failed hstops hfull hturn hbegun⟩

/-! ## Answers -/

variable {files : Files} {typed : List UInt8} {entropy : UInt64} {path script : String}
  {options : PlayOptions} {a : Adventure} {node : Node} {shown : List Shown}

theorem code_ofRun (before : String) (r : Ran) : (ofRun before r).code = 0 ↔ r.fault = none := by
  rw [ofRun]
  cases r.fault with
  | none => exact iff_of_true rfl rfl
  | some fault => exact iff_of_false Nat.one_ne_zero (Option.some_ne_none fault)

theorem shown_ofRun (before : String) (r : Ran) : (ofRun before r).shown =
    before ++ onConsole r.shown ++ (if r.fault = none then farewell r.game r.played else "") := by
  rw [ofRun]
  cases r.fault with
  | none => rfl
  | some fault =>
    rw [if_neg (Option.some_ne_none fault), String.append_empty]
    rfl

/-- If nothing keeps the file from being read, it is told exactly of a game that has
ended without a failure that it is over. -/
theorem Retells.farewell_eq (h : Retells v g 0 lines r n records) (hread : obstacle lines = none) :
    let entered := g.enter (((entries lines).map v.parse).take n)
    (if r.fault = none then farewell r.game r.played else "") =
      if entered.game.state.running = false ∧ entered.faults = []
      then s!"\n  Game over after {n} turns.\n" else "" := by
  intro entered
  have hfault : r.fault = none ↔ entered.faults = [] :=
    h.fault.trans (and_iff_left (.inl hread))
  by_cases hdone : r.fault = none
  · rw [if_pos hdone, h.counted hdone, Nat.zero_add, h.game, farewell]
    show (if entered.game.state.running then _ else _) = _
    cases hrunning : entered.game.state.running with
    | true => exact (if_neg fun hended => Bool.false_ne_true hended.1.symm).symm
    | false => exact (if_pos ⟨rfl, hfault.1 hdone⟩).symm
  · rw [if_neg hdone, if_neg fun hended => hdone (hfault.2 hended.2)]

theorem failure_of_load {answer : Answer} (h : load files typed path = .error answer) :
    answer.code ≠ 0 := by
  rw [load] at h
  split at h
  · rw [← Except.error.inj h]
    exact Nat.one_ne_zero
  · split at h
    · rw [← Except.error.inj h]
      exact Nat.one_ne_zero
    · split at h
      · cases h
      · rw [← Except.error.inj h]
        exact Nat.one_ne_zero

/-- The game that is played starts in the room that the adventure starts in. -/
theorem opening_newGame (a : Adventure) (options : PlayOptions) (entropy : UInt64) :
    ∃ room, a.world.room? a.start = some room ∧ (newGame a options entropy).opening =
      .ok (if options.look then [.room room (a.initialState.itemsHere a.world)] else []) := by
  obtain ⟨room, hroom, hname⟩ := a.start_mem
  have hfound : a.world.room? a.start = some room := by
    rw [← hname]
    exact World.room?_of_mem hroom
  have hrequired : (newGame a options entropy).adventure.world.requireRoom
      (newGame a options entropy).state.room = .ok room := by
    show a.world.requireRoom a.start = .ok room
    rw [World.requireRoom, hfound]
  have hlook : (newGame a options entropy).config.lookOnStart = options.look := rfl
  refine ⟨room, hfound, ?_⟩
  rw [Game.opening, hrequired, hlook]
  cases options.look <;> rfl

theorem answer_of_load (hload : load files typed path = .ok a) :
    answer files typed entropy (.play path options) =
      play files (leftTyped files typed path) entropy options a := by
  rw [answer, hload]

theorem play_of_node (hopening : (newGame a options entropy).opening = .ok shown)
    (hnode : files script = .ok node) (typed : List UInt8) :
    play files typed entropy { options with script := some script } a =
      ofRun (onConsole shown)
        ((newGame a options entropy).run (.console a.vocabulary false) (linesOf typed node)) := by
  have hgame : newGame a { options with script := some script } entropy =
      newGame a options entropy := rfl
  rw [play, hgame, hopening]
  dsimp only
  rw [hnode]

theorem code_of_no_node (hopening : (newGame a options entropy).opening = .ok shown)
    {fault : PathFault} (hnode : files script = .error fault) (typed : List UInt8) :
    (play files typed entropy { options with script := some script } a).code ≠ 0 := by
  have hgame : newGame a { options with script := some script } entropy =
      newGame a options entropy := rfl
  rw [play, hgame, hopening]
  dsimp only
  rw [hnode]
  exact Nat.one_ne_zero

/-- What has to succeed if a game played from a file is to end with code 0. -/
theorem code_play :
    (answer files typed entropy (.play path { options with script := some script })).code = 0 ↔
      ∃ a shown node, load files typed path = .ok a ∧
        (newGame a options entropy).opening = .ok shown ∧ files script = .ok node ∧
        ((newGame a options entropy).run (.console a.vocabulary false)
          (linesOf (leftTyped files typed path) node)).fault = none := by
  constructor
  · intro h
    cases hload : load files typed path with
    | error failure =>
      rw [answer, hload] at h
      exact absurd h (failure_of_load hload)
    | ok a =>
      obtain ⟨room, -, hopening⟩ := opening_newGame a options entropy
      rw [answer_of_load hload] at h
      cases hnode : files script with
      | error fault => exact absurd h (code_of_no_node hopening hnode _)
      | ok node =>
        rw [play_of_node hopening hnode, code_ofRun] at h
        exact ⟨a, _, node, rfl, hopening, rfl, h⟩
  · rintro ⟨a, shown, node, hload, hopening, hnode, hdone⟩
    rw [answer_of_load hload, play_of_node hopening hnode, code_ofRun]
    exact hdone

/-- A run succeeds if every turn that it takes does, and it stops before a line that
cannot be read. -/
theorem fault_run_eq_none (v : Vocabulary) (g : Game) (lines : List Line) :
    (g.run (.console v false) lines).fault = none ↔
      ∃ n, g.Takes 0 ((entries lines).map v.parse) n ∧
        (g.enter (((entries lines).map v.parse).take n)).faults = [] ∧
        (obstacle lines = none ∨
          (g.enter (((entries lines).map v.parse).take n)).game.stops n = true) := by
  obtain ⟨n, records, hretells⟩ := exists_retells (Game.goes_runFrom (.console v false) g 0 lines)
  have hfault := hretells.fault
  rw [Nat.zero_add] at hfault
  refine hfault.trans ⟨fun hdone => ⟨n, hretells.takes, hdone⟩, ?_⟩
  rintro ⟨n', htakes, hdone⟩
  rw [htakes.unique hretells.takes] at hdone
  exact hdone

theorem exists_compile_of_load (h : load files typed path = .ok a) :
    ∃ source, Script.compile source = .ok a := by
  rw [load] at h
  split at h
  · cases h
  · split at h
    · cases h
    · next source _ =>
      split at h
      · next hcompile =>
        rw [Except.ok.inj h] at hcompile
        exact ⟨source, hcompile⟩
      · cases h

theorem onConsole_of_load (hload : load files typed path = .ok a) (hfree : a.world.ReturnFree)
    (h : ∀ x ∈ shown, x.Within a.world) : onConsole shown = Shown.renderAll shown := by
  obtain ⟨source, hcompile⟩ := exists_compile_of_load hload
  refine onConsole_eq_renderAll hfree (fun room hroom e he => ?_) h
  rcases Script.direction_cases hcompile hroom he with hidentifier | ⟨i, hi, hname⟩
  · intro hreturn
    have hbad := hidentifier _ hreturn
    exact absurd hbad (by decide)
  · rw [← hname]
    exact (hfree.items i hi).1

theorem within_run (v : Vocabulary) (g : Game) (lines : List Line) :
    ∀ x ∈ (g.run (.console v false) lines).shown, x.Within g.adventure.world := by
  have hgoes := Game.goes_runFrom (.console v false) g 0 lines
  refine hgoes.within rfl (List.forall_mem_nil _) fun line echo command htake => ?_
  rw [(trim_of_taken htake).2.1]
  exact List.forall_mem_singleton.2 trivial

/-- A game that is played from a file shows the room it starts in, if that is wanted;
then, for each line that is taken, the line as it is echoed and what its turn has put
out, as the transcript of the game has it; and then, exactly if the game has ended and
nothing has failed, that it is over, with the number of turns.  Lines are taken in
order, blank ones apart, as long as the game goes on.  The exit code is 0 exactly if
the adventure was compiled, the game was started, every line that came up was read,
and every turn succeeded. -/
theorem play_retells_game (files : Files) (typed : List UInt8) (entropy : UInt64)
    (path script : String) (options : PlayOptions) :
    let answer := answer files typed entropy (.play path { options with script := some script })
    (answer.code = 0 ↔ ∃ a shown node, load files typed path = .ok a ∧
      (newGame a options entropy).opening = .ok shown ∧ files script = .ok node ∧
      let g := newGame a options entropy
      let lines := linesOf (leftTyped files typed path) node
      let commands := (entries lines).map a.vocabulary.parse
      ∃ n, g.Takes 0 commands n ∧ (g.enter (commands.take n)).faults = [] ∧
        (obstacle lines = none ∨ (g.enter (commands.take n)).game.stops n = true)) ∧
    ∀ a node text, load files typed path = .ok a → a.world.ReturnFree → files script = .ok node →
      node.bytes? (leftTyped files typed path) = some (encode text) →
      let g := newGame a options entropy
      let lines := linesOfBytes (encode text)
      let commands := (entries lines).map a.vocabulary.parse
      ∃ room n, a.world.room? a.start = some room ∧ g.Takes 0 commands n ∧
        let played := g.enter (commands.take n)
        (g.run (.console a.vocabulary false) lines).game = played.game ∧
        played.game.transcript.length = n ∧
        answer.shown =
          (if options.look then Listing.room room (a.initialState.itemsHere a.world) else "")
            ++ String.join (List.zipWith exchange (entries lines) played.game.transcript)
            ++ (if played.game.state.running = false ∧ played.faults = []
              then s!"\n  Game over after {n} turns.\n" else "") := by
  intro answer
  refine ⟨?_, ?_⟩
  · refine code_play.trans ?_
    refine exists_congr fun a => exists_congr fun shown => exists_congr fun node => ?_
    refine and_congr_right fun _ => and_congr_right fun _ => and_congr_right fun _ => ?_
    exact fault_run_eq_none _ _ _
  · intro a node text hload hfree hnode hbytes g lines commands
    obtain ⟨room, hroom, hopening⟩ := opening_newGame a options entropy
    obtain ⟨n, records, hretells⟩ :=
      exists_retells (Game.goes_runFrom (.console a.vocabulary false) g 0 lines)
    have htranscript : (g.enter (commands.take n)).game.transcript = records := by
      rw [← hretells.game, Game.transcript, hretells.past]
      show (records.reverse ++ []).reverse = records
      rw [List.append_nil, List.reverse_reverse]
    have hanswer : answer = _ := (answer_of_load hload).trans (play_of_node hopening hnode _)
    rw [linesOf, hbytes] at hanswer
    refine ⟨room, n, hroom, hretells.takes, hretells.game, ?_, ?_⟩
    · rw [htranscript, hretells.length]
    · rw [hanswer, shown_ofRun, onConsole_of_load hload hfree (Game.within_opening hopening),
        onConsole_of_load hload hfree (within_run _ g lines), htranscript,
        ← hretells.farewell_eq (obstacle_of_text text)]
      refine congrArg₂ _ (congrArg₂ _ ?_ hretells.shown) rfl
      cases options.look with
      | true => exact String.empty_append
      | false => rfl

end

namespace Sample

def source : String :=
  "room hall \"A hall.\" item lamp \"A lamp.\"\n" ++
  "occurs then println \"Drip.\" action quit then quit\n"

/-- Blanks around a line, a blank line, and a line behind the one that ends the
game. -/
def commands : String := "  look \n\nquit\nlook\n"

def files : Files := fun path =>
  if path = "game" then .ok (.file (encode source))
  else if path = "commands" then .ok (.file (encode commands))
  else .error .missing

def options : PlayOptions := ⟨none, some 1, some 3, true⟩

/-- Whether a file holds an adventure that passes a test. -/
def loads (path : String) (test : Adventure → Bool) : Bool :=
  match load files [] path with
  | .ok a => test a
  | .error _ => false

theorem exists_of_loads {path : String} {test : Adventure → Bool} (h : loads path test = true) :
    ∃ a, load files [] path = .ok a ∧ test a = true := by
  rw [loads] at h
  split at h
  · next a heq => exact ⟨a, heq, h⟩
  · cases h

end Sample

theorem play_retells_game_sample :
    ∃ a, load Sample.files [] "game" = .ok a ∧ a.world.ReturnFree ∧
      let answer := answer Sample.files [] 0
        (.play "game" { Sample.options with script := some "commands" })
      let commands :=
        (entries (linesOfBytes (encode Sample.commands))).map a.vocabulary.parse
      (∃ n, (newGame a Sample.options 0).Takes 0 commands n ∧
        ((newGame a Sample.options 0).enter (commands.take n)).game.transcript.length = n) ∧
      answer.code = 0 ∧
      answer.shown = "hall\nA hall.\nYou can see:\n  A lamp.\n" ++
        "> look\nDrip.\n> quit\nDrip.\n" ++
        "\n  Game over after 2 turns.\n" := by
  have hloads : Sample.loads "game" (fun a => decide a.world.ReturnFree) = true := by
    decide +kernel
  obtain ⟨a, hload, hfree⟩ := Sample.exists_of_loads hloads
  obtain ⟨-, hshown⟩ := play_retells_game Sample.files [] 0 "game" "commands" Sample.options
  obtain ⟨room, n, -, htakes, -, hlength, -⟩ :=
    hshown a _ Sample.commands hload (of_decide_eq_true hfree) rfl rfl
  exact ⟨a, hload, of_decide_eq_true hfree, ⟨n, htakes, hlength⟩, by decide +kernel⟩

end Console

end TextAdventure
