import Chip8.Proofs.Screen.Toggling

/-! Which calls on a screen report a change, and which count it as shown. -/
namespace Chip8.Screen

/-- The call finds a change and counts it as shown. -/
def shows (screen : Screen) : ScreenCall → Bool
  | .takeUpdated => screen.dirty
  | .refresh paint => screen.dirty && (paint screen).isNone
  | _ => false

/-- What happened in between is nothing, or it is reported. -/
def Reports (before after : Screen) : Prop := after = before ∨ after.dirty = true

theorem Reports.refl (screen : Screen) : screen.Reports screen := .inl rfl

theorem Reports.trans {before middle after : Screen} (first : before.Reports middle)
    (last : middle.Reports after) : before.Reports after := by
  rcases last with same | dirty
  · subst same
    exact first
  · exact .inr dirty

/-- A sprite without a dot on the screen leaves it as it was. -/
theorem reports_draw (screen : Screen) (sprite : Sprite) (placement : Placement) :
    screen.Reports (screen.draw sprite placement).screen := by
  rw [screen_draw]
  cases sprite.filterMap (placement.cell? screen.resolution) with
  | nil => exact .refl screen
  | cons position rest =>
    refine .inr ?_
    rw [dirty_toggleAll]
    exact Bool.or_true _

theorem mark_of_clean {screen : Screen} (clean : screen.dirty = false) :
    { screen with dirty := false } = screen := by
  rw [← clean]

theorem refresh_of_clean {screen : Screen} (clean : screen.dirty = false)
    (paint : Screen → Option ε) : screen.refresh paint = ⟨none, none, screen⟩ := by
  simp [refresh, clean]

theorem refresh_of_failure {screen : Screen} (dirty : screen.dirty = true)
    {paint : Screen → Option ε} (failed : paint screen = some reason) :
    screen.refresh paint = ⟨some screen, some reason, screen⟩ := by
  simp [refresh, dirty, failed]

theorem refresh_of_success {screen : Screen} (dirty : screen.dirty = true)
    {paint : Screen → Option ε} (painted : paint screen = none) :
    screen.refresh paint = ⟨some screen, none, { screen with dirty := false }⟩ := by
  simp [refresh, dirty, painted]

theorem reports_refresh {screen : Screen} {paint : Screen → Option Fault}
    (unshown : screen.shows (.refresh paint) = false) :
    screen.Reports (screen.refresh paint).screen := by
  cases dirty : screen.dirty with
  | false =>
    rw [refresh_of_clean dirty]
    exact .refl screen
  | true =>
    cases painted : paint screen with
    | none => simp [shows, dirty, painted] at unshown
    | some reason =>
      rw [refresh_of_failure dirty painted]
      exact .refl screen

/-- Every call that does not count a change as shown reports its own. -/
theorem reports_perform {screen : Screen} (unshown : screen.shows call = false) :
    screen.Reports (screen.perform call).2 := by
  cases call with
  | clear => exact .inr rfl
  | draw bytes placement => exact screen.reports_draw _ _
  | drawBig bytes placement => exact screen.reports_draw _ _
  | scrollDown rows => exact .inr rfl
  | scrollLeft columns => exact .inr rfl
  | scrollRight columns => exact .inr rfl
  | setResolution resolution => exact .inr rfl
  | forceRefresh => exact .inr rfl
  | takeUpdated => exact .inl (mark_of_clean unshown)
  | refresh paint => exact reports_refresh unshown

/-- How a screen is shown by a painter. -/
structure RefreshedBy (screen : Screen) (paint : Screen → Option ε) : Prop where
  called : (screen.refresh paint).seen = if screen.dirty then some screen else none
  failure : (screen.refresh paint).failure = if screen.dirty then paint screen else none
  dirty : (screen.refresh paint).screen.dirty = (screen.dirty && (paint screen).isSome)
  cells : (screen.refresh paint).screen.cells = screen.cells
  resolution : (screen.refresh paint).screen.resolution = screen.resolution

theorem refreshedBy (screen : Screen) (paint : Screen → Option ε) : screen.RefreshedBy paint := by
  cases dirty : screen.dirty with
  | false =>
    have reply := refresh_of_clean dirty paint
    constructor <;> simp [reply, dirty]
  | true =>
    cases painted : paint screen with
    | none =>
      have reply := refresh_of_success dirty painted
      constructor <;> simp [reply, dirty, painted]
    | some reason =>
      have reply := refresh_of_failure dirty painted
      constructor <;> simp [reply, dirty, painted]

end Chip8.Screen
