import ScriptSuite.Proofs.Script.Rounds
import ScriptSuite.Proofs.Script.Semicolon.Lookahead

set_option autoImplicit false

namespace ScriptSuite.Script

variable {α σ : Type}

def proceeding (next : σ → Parser α) : Round σ α → Parser α
  | .again state => next state
  | .done result => Pure.pure result

theorem repeat_from_nil (round : σ → Parser (Round σ α)) (start : σ) :
    repeatFrom round [] start = round start >>= proceeding fun _ => unexpected .expression := by
  refine congrArg (round start >>= ·) (funext fun step => ?_)
  cases step <;> rfl

theorem repeat_from_cons (round : σ → Parser (Round σ α)) (token : Token) (fuel : List Token) (start : σ) :
    repeatFrom round (token :: fuel) start = round start >>= proceeding (repeatFrom round fuel) := by
  refine congrArg (round start >>= ·) (funext fun step => ?_)
  cases step <;> rfl

theorem repeat_rounds_proceeding {round : σ → Parser (Round σ α)} (shortens : RoundShortens round) (start : σ) :
    repeatRounds round start = round start >>= proceeding (repeatRounds round) := by
  funext context state
  rw [repeat_rounds_unfold shortens, bind_run]
  cases round start context state with
  | error error after => rfl
  | ok step after => cases step <;> rfl

def Landing.rounds (meets : List Token → List Token → Prop) (lost : List Token → Prop) (done : Landing α) :
    Landing (Round σ α) where
  meets
    | .again _ => meets
    | .done result => done.meets result
  lost
    | .again _ => lost
    | .done result => done.lost result

section

variable {meets : List Token → List Token → Prop} {lost : List Token → Prop} {done : Landing α}
  {round roundMate : σ → Parser (Round σ α)}

theorem falls_repeat_from (falls : ∀ start, Falls lost (Landing.rounds meets lost done).lost (round start))
    (fuel : List Token) (start : σ) : Falls lost done.lost (repeatFrom round fuel start) := by
  induction fuel generalizing start with
  | nil =>
      rw [repeat_from_nil]
      refine .bind (falls start) fun step => ?_
      cases step with
      | again next => exact fun _ _ _ _ _ success => by cases success
      | done result => exact .pure fun _ => id
  | cons token fuel ih =>
      rw [repeat_from_cons]
      refine .bind (falls start) fun step => ?_
      cases step with
      | again next => exact ih next
      | done result => exact .pure fun _ => id

variable [Spanless α] [Spanless σ]

theorem carries_repeat_from (shortens : RoundShortens roundMate)
    (each : ∀ start seen, Alike start seen →
      Carries (Standing meets) (Landing.rounds meets lost done) (round start) (roundMate seen))
    (falls : ∀ start, Falls lost (Landing.rounds meets lost done).lost (round start)) (fuel : List Token) {start seen : σ}
    (alike : Alike start seen) : Carries (Standing meets) done (repeatFrom round fuel start) (repeatRounds roundMate seen) := by
  have ends : ∀ {result other : α}, Alike result other →
      Carries (Standing (done.meets result)) done (Pure.pure result) (Pure.pure other) :=
    fun alike => .pure_at alike fun _ _ => id
  induction fuel generalizing start seen with
  | nil =>
      rw [repeat_from_nil, repeat_rounds_proceeding shortens]
      refine .bind (each start seen alike) (fun step => ?_) fun step other same => ?_
      · cases step with
        | again next => exact fun _ _ _ _ _ success => by cases success
        | done result => exact .pure fun _ => id
      · cases step with
        | again next => exact .unexpected _
        | done result =>
            cases other with
            | again next => cases same
            | done other => exact ends (Round.done.inj same)
  | cons token fuel ih =>
      rw [repeat_from_cons, repeat_rounds_proceeding shortens]
      refine .bind (each start seen alike) (fun step => ?_) fun step other same => ?_
      · cases step with
        | again next => exact falls_repeat_from falls fuel next
        | done result => exact .pure fun _ => id
      · cases step with
        | again next =>
            cases other with
            | again other => exact ih (Round.again.inj same)
            | done other => cases same
        | done result =>
            cases other with
            | again next => cases same
            | done other => exact ends (Round.done.inj same)

theorem Carries.repeatRounds (shortens : RoundShortens roundMate)
    (each : ∀ start seen, Alike start seen →
      Carries (Standing meets) (Landing.rounds meets lost done) (round start) (roundMate seen))
    (falls : ∀ start, Falls lost (Landing.rounds meets lost done).lost (round start)) {start seen : σ}
    (alike : Alike start seen) :
    Carries (Standing meets) done (Script.repeatRounds round start) (Script.repeatRounds roundMate seen) :=
  ⟨fun context state => (carries_repeat_from shortens each falls state.rest alike).grows context state,
    fun context state => (carries_repeat_from shortens each falls state.rest alike).carries context state⟩

end

section

variable [Spanless α] [Spanless σ] {joint : Joint} {place : List Token → Prop}

def Joint.turning (joint : Joint) (place : List Token → Prop) : Landing (Round σ α) :=
  .rounds joint.Tracks (fun _ => False) (joint.losing place)

theorem Carries.repeatTurning {round roundMate : σ → Parser (Round σ α)} (shortens : RoundShortens roundMate)
    (each : ∀ start seen, Alike start seen → Carries joint.Tracking (joint.turning place) (round start) (roundMate seen))
    {start seen : σ} (alike : Alike start seen) :
    Carries joint.Tracking (joint.losing place) (Script.repeatRounds round start) (Script.repeatRounds roundMate seen) :=
  .repeatRounds shortens each (fun _ _ _ _ _ lost => lost.elim) alike

theorem carries_again {again other : σ} (alike : Alike again other) :
    Carries joint.Tracking (joint.turning place) (Pure.pure (.again again) : Parser (Round σ α)) (Pure.pure (.again other)) :=
  .pure_at (congrArg Round.again alike) fun _ _ => id

theorem carries_done {done other : α} (alike : Alike done other) :
    Carries joint.Tracking (joint.turning place) (Pure.pure (.done done) : Parser (Round σ α)) (Pure.pure (.done other)) :=
  .pure_at (congrArg Round.done alike) fun _ _ => id

end

section

variable [Spanless α] {joint : Joint} {item itemMate : Parser α}

theorem alike_cons {value seen : α} {values others : List α} (first : Alike value seen) (rest : Alike values others) :
    Alike (value :: values) (seen :: others) := by
  simp_all [Alike]

theorem alike_some {value seen : α} (alike : Alike value seen) : Alike (some value) (some seen) :=
  congrArg some alike

theorem alike_reverse {values others : List α} (alike : Alike values others) : Alike values.reverse others.reverse := by
  simp_all [Alike]

theorem carries_comma_list {place : List Token → Prop} (bars : ∀ rest, place rest → barred rest) {close : Punct}
    (blind : (TokenKind.punct close).blind = true) (closes : Closes 0 itemMate)
    (carries : Carries joint.Tracking (joint.losing place) item itemMate) :
    Carries joint.Tracking (joint.losing place) (commaList close item) (commaList close itemMate) :=
  .repeatTurning (comma_round_shortens close closes)
    (fun _ _ same => .thenSame (carries_check blind) fun _ => .ite (carries_done (alike_reverse same))
      (.unlessLost carries (fun _ => .unaccepted bars rfl (.pure fun _ => id)) fun _ _ alike =>
        .thenSame (carries_accept_punct rfl) fun _ => .ite (carries_again (alike_cons alike same))
          (carries_done (alike_reverse (alike_cons alike same)))))
    rfl

theorem carries_holed_list {close : Punct} (blind : (TokenKind.punct close).blind = true) (closes : Closes 0 itemMate)
    (carries : Carries joint.Tracking joint.inside item itemMate) :
    Carries joint.Tracking joint.inside (holedList close item) (holedList close itemMate) :=
  .repeatTurning (holed_round_shortens close closes)
    (fun _ _ same => .thenSame (carries_check blind) fun _ => .ite (carries_done (alike_reverse same))
      (.thenSame (carries_accept_punct rfl) fun _ => .ite (carries_again (alike_cons rfl same))
        (.then carries fun _ _ alike => .thenSame (carries_accept_punct rfl) fun _ =>
          .ite (carries_again (alike_cons (alike_some alike) same))
            (carries_done (alike_reverse (alike_cons (alike_some alike) same))))))
    rfl

theorem carries_names_list (reads : Reads 0 itemMate)
    (carries : Carries joint.Tracking (joint.losing joint.short) item itemMate) :
    Carries joint.Tracking joint.inside (namesList item) (namesList itemMate) :=
  .repeatTurning (names_round_shortens reads)
    (fun _ _ same => .thenSame (carries_accept_punct rfl) fun _ => .ite (carries_done (alike_reverse same))
      (.unlessLost carries
        (fun _ => .unchecked joint.short_barred rfl (.first (halts_expect rfl _) joint.short_barred))
        fun _ _ alike => .thenSame (carries_check rfl) fun _ => .ite (carries_again (alike_cons alike same))
          (.then (carries_expect_punct rfl) fun _ _ _ => carries_again (alike_cons alike same))))
    rfl

end

end ScriptSuite.Script
