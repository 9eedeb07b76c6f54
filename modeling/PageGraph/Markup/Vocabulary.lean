namespace PageGraph.Markup

inductive Space where
  | html
  | svg
  | math
  deriving DecidableEq, Repr

def headingElements : List String :=
  ["h1", "h2", "h3", "h4", "h5", "h6"]

def blockElements : List String := [
  "address", "article", "aside", "blockquote", "center", "details", "dialog", "dir", "div", "dl",
  "fieldset", "figcaption", "figure", "footer", "header", "hgroup", "main", "menu", "nav", "ol",
  "p", "search", "section", "summary", "ul"]

def closableElements : List String := [
  "address", "article", "aside", "blockquote", "button", "center", "details", "dialog", "dir",
  "div", "dl", "fieldset", "figcaption", "figure", "footer", "header", "hgroup", "listing", "main",
  "menu", "nav", "ol", "pre", "search", "section", "summary", "ul"]

def formattingElements : List String := [
  "a", "b", "big", "code", "em", "font", "i", "nobr", "s", "small", "strike", "strong", "tt", "u"]

def voidElements : List String :=
  ["area", "br", "embed", "img", "keygen", "wbr", "input"]

def headElements : List String := [
  "base", "basefont", "bgsound", "link", "meta", "noframes", "script", "style", "title"]

def impliedEndElements : List String :=
  ["dd", "dt", "li", "optgroup", "option", "p", "rb", "rp", "rt", "rtc"]

def tableElements : List String := [
  "caption", "col", "colgroup", "tbody", "td", "tfoot", "th", "thead", "tr"]

def tableSections : List String :=
  ["tbody", "tfoot", "thead"]

def fosteringElements : List String :=
  ["table", "tbody", "tfoot", "thead", "tr"]

def specialElements : List String := [
  "address", "applet", "area", "article", "aside", "base", "basefont", "bgsound", "blockquote",
  "body", "br", "button", "caption", "center", "col", "colgroup", "dd", "details", "dir", "div",
  "dl", "dt", "embed", "fieldset", "figcaption", "figure", "footer", "form", "frame", "frameset",
  "h1", "h2", "h3", "h4", "h5", "h6", "head", "header", "hgroup", "hr", "html", "iframe", "img",
  "input", "isindex", "li", "link", "listing", "main", "marquee", "menu", "meta", "nav", "noembed",
  "noframes", "noscript", "object", "ol", "p", "param", "plaintext", "pre", "script", "section",
  "select", "source", "style", "summary", "table", "tbody", "td", "template", "textarea", "tfoot",
  "th", "thead", "title", "tr", "track", "ul", "wbr", "xmp"]

def scopeElements : List String :=
  ["applet", "caption", "html", "table", "td", "th", "marquee", "object", "template"]

def mathTextElements : List String :=
  ["mi", "mo", "mn", "ms", "mtext"]

def svgIntegrationElements : List String :=
  ["foreignObject", "desc", "title"]

def breakoutElements : List String := [
  "b", "big", "blockquote", "body", "br", "center", "code", "dd", "div", "dl", "dt", "em", "embed",
  "h1", "h2", "h3", "h4", "h5", "h6", "head", "hr", "i", "img", "li", "listing", "menu", "meta",
  "nobr", "ol", "p", "pre", "ruby", "s", "small", "span", "strong", "strike", "sub", "sup", "table",
  "tt", "u", "ul", "var"]

def svgNames : List String := [
  "altGlyph", "altGlyphDef", "altGlyphItem", "animateColor", "animateMotion", "animateTransform",
  "clipPath", "feBlend", "feColorMatrix", "feComponentTransfer", "feComposite",
  "feConvolveMatrix", "feDiffuseLighting", "feDisplacementMap", "feDistantLight", "feDropShadow",
  "feFlood", "feFuncA", "feFuncB", "feFuncG", "feFuncR", "feGaussianBlur", "feImage", "feMerge",
  "feMergeNode", "feMorphology", "feOffset", "fePointLight", "feSpecularLighting", "feSpotLight",
  "feTile", "feTurbulence", "foreignObject", "glyphRef", "linearGradient", "radialGradient",
  "textPath"]

def svgName (tag : String) : String :=
  (svgNames.find? fun name => String.ofList (name.toList.map Char.toLower) = tag).getD tag

end PageGraph.Markup
