import FigureMarkup.Drawing.Preview
import FigureMarkup.Scene.Encoding

/-!
# Pages

A page is an HTML document that needs nothing else: it shows the drawing of a scene and its text,
goes through the steps of the text, and marks the element of the drawing to which a part of the
text refers. It also holds the scene itself as JSON.
-/

namespace FigureMarkup.Drawing

open Text

def pageStyle : String :=
  " ".intercalate
    ["body \x7b font-family: sans-serif; max-width: 60em; margin: 2em auto; \x7d",
      ".GeoElement \x7b font-weight: bold; cursor: pointer; \x7d",
      ".GeoElement.active \x7b background: #fdf6e3; \x7d",
      "#controls \x7b margin: 1em 0; \x7d"]

/-- The script of pages. It shows the sections of the text up to the current step, and fades the
element to which the text under the pointer refers. -/
def pageScript : String :=
  "\n".intercalate
    ["(function () \x7b",
      "  var steps = document.querySelectorAll(\"[id^='step_']\");",
      "  var current = 0;",
      "  function show(n) \x7b",
      "    current = Math.max(0, Math.min(n, steps.length - 1));",
      "    steps.forEach(function (el, i) \x7b " ++
        "el.style.display = i <= current ? \"\" : \"none\"; \x7d);",
      "  \x7d",
      "  document.getElementById(\"prev\").onclick = function () \x7b show(current - 1); \x7d;",
      "  document.getElementById(\"next\").onclick = function () \x7b show(current + 1); \x7d;",
      "  document.querySelectorAll(\".GeoElement\").forEach(function (span) \x7b",
      "    var shape = document.getElementById(" ++
        "span.getAttribute(\"name\").replace(/^text_/, \"\"));",
      "    span.onmouseenter = function () \x7b",
      "      span.classList.add(\"active\");",
      "      if (shape) \x7b shape.style.opacity = \"0.5\"; \x7d",
      "    \x7d;",
      "    span.onmouseleave = function () \x7b",
      "      span.classList.remove(\"active\");",
      "      if (shape) \x7b shape.style.opacity = \"\"; \x7d",
      "    \x7d;",
      "  \x7d);",
      "  show(0);",
      "\x7d)();"]

/-- Write JSON text such that it cannot end the element that holds it. -/
def embed (json : String) : String :=
  String.ofList (replacePair '<' '/' ['<', '\\', '/'] json.toList)

def around (opening content closing : String) : String :=
  "<" ++ opening ++ ">" ++ content ++ "</" ++ closing ++ ">\n"

def page (title : String) (settings : Settings Float) (scene : Scene Float) : String :=
  let onLines (content : String) := "\n" ++ content ++ "\n"
  "<!DOCTYPE html>\n<html>\n<head>\n<meta charset=\"utf-8\">\n" ++
    around "title" (escapeXml title) "title" ++
    around "style" pageStyle "style" ++
    "</head>\n<body>\n" ++
    around "h1" (escapeXml title) "h1" ++
    around "figure" (onLines (ofScene settings scene).render) "figure" ++
    around "div id=\"controls\""
      ("<button id=\"prev\">Previous</button> " ++ "<button id=\"next\">Next</button>") "div" ++
    around "article" (onLines scene.text) "article" ++
    around "script type=\"application/json\" id=\"scene\"" (embed scene.compact) "script" ++
    around "script" pageScript "script" ++
    "</body>\n</html>\n"

end FigureMarkup.Drawing
