import ScriptSuite.Proofs.Script.Semicolon.Ticking

set_option autoImplicit false

namespace ScriptSuite.Script

variable {α β σ : Type}

structure Start where
  alone : State → Prop
  both : State → State → Prop

structure Landing (α : Type) where
  meets : α → List Token → List Token → Prop
  lost : α → List Token → Prop

-- A success of the one run without a recorded error is a success of the other one, with a value that is alike.
structure Carries [Spanless α] (start : Start) (landing : Landing α) (parser other : Parser α) : Prop where
  grows : ∀ context state value after, start.alone state → parser context state = .ok value after →
    after.recovered = [] → state.recovered = []
  carries : ∀ context state mate value after, start.both state mate → mate.recovered = [] →
    parser context state = .ok value after → after.recovered = [] →
      landing.lost value after.rest ∨ ∃ seen final, other context mate = .ok seen final ∧ Alike value seen ∧
        landing.meets value after.rest final.rest ∧ final.recovered = []

def Falls (place : List Token → Prop) (lost : α → List Token → Prop) (parser : Parser α) : Prop :=
  ∀ context state value after, place state.rest → parser context state = .ok value after → lost value after.rest

def Standing (meets : List Token → List Token → Prop) : Start :=
  ⟨fun _ => True, fun state mate => meets state.rest mate.rest⟩

namespace Joint

variable (joint : Joint)

def Tracking : Start :=
  Standing joint.Tracks

def Showing (one other : Token) : Start :=
  ⟨fun state => state.peek = one,
    fun state mate => joint.Tracks state.rest mate.rest ∧ state.peek = one ∧ mate.peek = other⟩

def inside : Landing α :=
  ⟨fun _ => joint.Tracks, fun _ _ => False⟩

def losing (place : List Token → Prop) : Landing α :=
  ⟨fun _ => joint.Tracks, fun _ => place⟩

def short (rest : List Token) : Prop :=
  rest = joint.semi :: joint.sign

def past (rest : List Token) : Prop :=
  rest = joint.sign

end Joint

class Placeless (α : Type) [Spanless α] : Prop where
  same : ∀ one other : α, Alike one other → one = other

instance : Placeless Bool := ⟨fun _ _ => id⟩

instance : Placeless String := ⟨fun _ _ => id⟩

instance : Placeless MethodKind := ⟨fun _ _ => id⟩

instance : Placeless MethodModifiers := ⟨fun _ _ => id⟩

instance : Placeless (Option String) := ⟨fun _ _ => by simp [Alike]⟩

section

variable [Spanless α] [Spanless β] {start begun : Start} {landing early : Landing α} {late : Landing β}
  {parser other : Parser α} {next nextOther : α → Parser β}

theorem Carries.bind (one : Carries start early parser other) (falls : ∀ value, Falls (early.lost value) late.lost (next value))
    (two : ∀ value seen, Alike value seen → Carries (Standing (early.meets value)) late (next value) (nextOther seen)) :
    Carries start late (parser >>= next) (other >>= nextOther) := by
  constructor
  · intro context state value after alone success clean
    obtain ⟨middle, between, read, finished⟩ := bind_ok success
    exact one.grows context state middle between alone read
      ((two middle middle rfl).grows context between value after trivial finished clean)
  · intro context state mate value after both untouched success clean
    obtain ⟨middle, between, read, finished⟩ := bind_ok success
    have quiet := (two middle middle rfl).grows context between value after trivial finished clean
    rcases one.carries context state mate middle between both untouched read quiet with lost | carried
    · exact .inl (falls middle context between value after lost finished)
    · obtain ⟨seen, mates, ran, alike, meets, kept⟩ := carried
      rw [bind_run_ok ran]
      exact (two middle seen alike).carries context between mates value after meets kept finished clean

theorem Carries.weaken {landing' : Landing α} (one : Carries start landing parser other)
    (alone : ∀ state, begun.alone state → start.alone state)
    (both : ∀ state mate, begun.both state mate → start.both state mate)
    (meets : ∀ value rest mate, landing.meets value rest mate → landing'.meets value rest mate ∨ landing'.lost value rest)
    (lost : ∀ value rest, landing.lost value rest → landing'.lost value rest) : Carries begun landing' parser other := by
  refine ⟨fun context state value after here => one.grows context state value after (alone state here), ?_⟩
  intro context state mate value after here untouched success clean
  rcases one.carries context state mate value after (both state mate here) untouched success clean with gone | carried
  · exact .inl (lost value after.rest gone)
  · obtain ⟨seen, final, ran, alike, met, kept⟩ := carried
    exact (meets value after.rest final.rest met).symm.imp id fun met => ⟨seen, final, ran, alike, met, kept⟩

theorem Carries.settles {landing' : Landing α} (one : Carries start landing parser other)
    (meets : ∀ value rest mate, landing.meets value rest mate → landing'.meets value rest mate ∨ landing'.lost value rest)
    (lost : ∀ value rest, landing.lost value rest → landing'.lost value rest) : Carries start landing' parser other :=
  one.weaken (fun _ => id) (fun _ _ => id) meets lost

theorem Carries.within {change : Context → Context} (one : Carries start landing parser other) :
    Carries start landing (Parser.within change parser) (Parser.within change other) :=
  ⟨fun context => one.grows (change context), fun context => one.carries (change context)⟩

theorem Carries.allowingIn (one : Carries start landing parser other) :
    Carries start landing (allowingIn parser) (allowingIn other) :=
  one.within

theorem Carries.forbiddingIn (one : Carries start landing parser other) :
    Carries start landing (forbiddingIn parser) (forbiddingIn other) :=
  one.within

theorem Carries.inFunction {isAsync isGenerator : Bool} (one : Carries start landing parser other) :
    Carries start landing (inFunction isAsync isGenerator parser) (inFunction isAsync isGenerator other) :=
  one.within

theorem Carries.ite {condition : Prop} [Decidable condition] {yes no yesOther noOther : Parser α}
    (one : Carries start landing yes yesOther) (two : Carries start landing no noOther) :
    Carries start landing (if condition then yes else no) (if condition then yesOther else noOther) := by
  split
  · exact one
  · exact two

theorem Carries.branch {condition : Prop} [Decidable condition] {yes no yesOther noOther : Parser α}
    (one : condition → Carries start landing yes yesOther) (two : ¬condition → Carries start landing no noOther) :
    Carries start landing (if condition then yes else no) (if condition then yesOther else noOther) := by
  split
  · next holds => exact one holds
  · next fails => exact two fails

theorem Carries.fail (error : SyntaxError) : Carries start landing (Parser.fail error) other := by
  constructor
  · intro context state value after _ success
    cases success
  · intro context state mate value after _ _ success
    cases success

theorem Carries.unexpected (wanted : Expectation) : Carries start landing (unexpected wanted) other := by
  constructor
  · intro context state value after _ success
    cases success
  · intro context state mate value after _ _ success
    cases success

theorem Carries.pure_at {value seen : α} (alike : Alike value seen)
    (meets : ∀ state mate, start.both state mate → landing.meets value state.rest mate.rest) :
    Carries start landing (Pure.pure value) (Pure.pure seen) := by
  constructor
  · intro context state value after _ success clean
    cases success
    exact clean
  · intro context state mate value after both untouched success _
    cases success
    exact .inr ⟨seen, mate, rfl, alike, meets state mate both, untouched⟩

end

section

variable [Spanless α] [Spanless β] {joint : Joint} {start : Start} {landing : Landing α} {late : Landing β}
  {parser other : Parser α} {next nextOther : α → Parser β} {place : List Token → Prop} {one two : Token}

theorem Carries.then (one : Carries start joint.inside parser other)
    (two : ∀ value seen, Alike value seen → Carries joint.Tracking late (next value) (nextOther seen)) :
    Carries start late (parser >>= next) (other >>= nextOther) :=
  one.bind (fun _ _ _ _ _ lost => lost.elim) two

theorem Carries.thenSame [Placeless α] (one : Carries start joint.inside parser other)
    (two : ∀ value, Carries joint.Tracking late (next value) (nextOther value)) :
    Carries start late (parser >>= next) (other >>= nextOther) :=
  one.then fun value seen alike => Placeless.same value seen alike ▸ two value

theorem Carries.unlessLost (one : Carries start (joint.losing place) parser other)
    (falls : ∀ value, Falls place late.lost (next value))
    (two : ∀ value seen, Alike value seen → Carries joint.Tracking late (next value) (nextOther seen)) :
    Carries start late (parser >>= next) (other >>= nextOther) :=
  one.bind falls two

theorem Carries.unlessLostSame [Placeless α] (one : Carries start (joint.losing place) parser other)
    (falls : ∀ value, Falls place late.lost (next value))
    (two : ∀ value, Carries joint.Tracking late (next value) (nextOther value)) :
    Carries start late (parser >>= next) (other >>= nextOther) :=
  one.unlessLost falls fun value seen alike => Placeless.same value seen alike ▸ two value

theorem Carries.loosely (one : Carries start joint.inside parser other) : Carries start (joint.losing place) parser other :=
  one.settles (fun _ _ _ => .inl) fun _ _ => False.elim

theorem Carries.at (carries : Carries joint.Tracking landing parser other) :
    Carries (joint.Showing one two) landing parser other :=
  carries.weaken (fun _ _ => trivial) (fun _ _ both => both.1) (fun _ _ _ => .inl) fun _ _ => id

theorem Carries.pure {lost : α → List Token → Prop} {value seen : α} (alike : Alike value seen) :
    Carries joint.Tracking ⟨fun _ => joint.Tracks, lost⟩ (Pure.pure value) (Pure.pure seen) :=
  .pure_at alike fun _ _ => id

end

end ScriptSuite.Script
