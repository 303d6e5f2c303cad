import FigureMarkup.Main
import FigureMarkup.Proofs.AnnotatedText.Prose
import FigureMarkup.Proofs.Color.Notation
import FigureMarkup.Proofs.Compilation.ErrorPlaces
import FigureMarkup.Proofs.Compilation.Finite
import FigureMarkup.Proofs.Compilation.Independence
import FigureMarkup.Proofs.Compilation.Labels
import FigureMarkup.Proofs.Compilation.Places
import FigureMarkup.Proofs.Compilation.Steps
import FigureMarkup.Proofs.Construction.Colors
import FigureMarkup.Proofs.Construction.Failure
import FigureMarkup.Proofs.Construction.Idempotence
import FigureMarkup.Proofs.Construction.MeasuredRadius
import FigureMarkup.Proofs.Construction.Persistence
import FigureMarkup.Proofs.Construction.PolygonNames
import FigureMarkup.Proofs.Construction.Redeclaration
import FigureMarkup.Proofs.Construction.StoredNames
import FigureMarkup.Proofs.Construction.StoredRadii
import FigureMarkup.Proofs.Drawing.Circles
import FigureMarkup.Proofs.Drawing.Embedding
import FigureMarkup.Proofs.Drawing.Names
import FigureMarkup.Proofs.Drawing.Viewport
import FigureMarkup.Proofs.Figure.Angles
import FigureMarkup.Proofs.Markup.RoundTrip
import FigureMarkup.Proofs.Markup.Tokens
import FigureMarkup.Proofs.Placement.Honours
import FigureMarkup.Proofs.Placement.Moments
import FigureMarkup.Proofs.Placement.Repeated
import FigureMarkup.Proofs.Placement.Underconstrained
import FigureMarkup.Proofs.Plane.Circumcircle
import FigureMarkup.Proofs.Plane.Membership
import FigureMarkup.Proofs.Plane.Thinning
import FigureMarkup.Proofs.Strict.Compilation
