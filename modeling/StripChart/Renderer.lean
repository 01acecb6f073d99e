import StripChart.Log
import StripChart.Tab

/-!
# Renderers

What draws pictures is not fixed: anything that can take one `Picture` after the other is
a `Renderer`.
-/

namespace StripChart

/-- What can draw pictures. -/
class Renderer (ρ : Type) where
  /-- Draws a picture; the renderer afterwards, and what it has to tell. -/
  draw : ρ → Picture → ρ × List LogLine

end StripChart
