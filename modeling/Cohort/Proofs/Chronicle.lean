import Mathlib.Data.List.Induction
import Cohort.Proofs.Scene

-- What has been told on the way to a scene, and how it is compared with what is stored there.
namespace Cohort.Scene
variable {α : Type}

def chronicle (tells : Scene → Moment → Move → List α) : List (Moment × Move) → Scene → List α
  | [], _ => []
  | move :: rest, scene => tells scene move.1 move.2 ++ chronicle tells rest (scene.after move.1 move.2)

theorem chronicle_append (tells : Scene → Moment → Move → List α) (first later : List (Moment × Move))
    (scene : Scene) : scene.chronicle tells (first ++ later) =
      scene.chronicle tells first ++ (scene.play first).chronicle tells later := by
  induction first generalizing scene with
  | nil => rfl
  | cons move rest ih =>
    show tells scene move.1 move.2 ++ (scene.after move.1 move.2).chronicle tells (rest ++ later) = _
    rw [ih, ← List.append_assoc]
    rfl

-- What holds at the beginning and is kept by every move of the run, of the scene and of what was told so far.
theorem play_told {tells : Scene → Moment → Move → List α} {P : Scene → List α → Prop} {moves : List (Moment × Move)}
    (start : P empty []) (step : ∀ before now move later, moves = before ++ (now, move) :: later →
      (empty.play before).Ready → P (empty.play before) (empty.chronicle tells before) →
      P ((empty.play before).after now move) (empty.chronicle tells before ++ tells (empty.play before) now move)) :
    P (empty.play moves) (empty.chronicle tells moves) := by
  suffices reached : ∀ before later, moves = before ++ later → P (empty.play before) (empty.chronicle tells before) from
    reached moves [] (List.append_nil moves).symm
  intro before
  -- A move is judged by the scene before it, so the run is taken apart at its end.
  induction before using List.reverseRecOn with
  | nil => exact fun _ _ => start
  | append_singleton before move ih =>
    intro later split
    rw [List.append_assoc] at split
    have next := step before move.1 move.2 later split (play_ready empty_ready before) (ih _ split)
    rw [play_append, chronicle_append]
    rwa [← List.append_nil (tells _ _ _)] at next

end Cohort.Scene
