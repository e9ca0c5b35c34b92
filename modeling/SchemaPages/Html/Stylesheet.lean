/-!
The stylesheet that comes with the pages, and the headers that ask for it.
-/

namespace SchemaPages.Html

def stylesheetName : String := "code.css"

def stylesheet : String :=
  "code.highlight \x7b
  display: block;
  font-family: \"Ubuntu Mono\", monospace;
  font-size: 14px;
  line-height: 1.5;
\x7d

code.highlight ul.code \x7b
  counter-reset: line;
  margin: 0;
\x7d

code.highlight ul.code li \x7b
  counter-increment: line;
  list-style: none;
  position: relative;
  white-space: pre;
\x7d

code.highlight ul.code li::before \x7b
  color: #999;
  content: counter(line);
  left: -28px;
  position: absolute;
  text-align: right;
  width: 20px;
\x7d

code.highlight .tab \x7b
  padding-left: 2em;
\x7d

code.highlight .comment \x7b
  color: #6a737d;
\x7d

code.highlight .keyword \x7b
  color: #d73a49;
\x7d

code.highlight .identifier,
code.highlight .support.type \x7b
  color: #6f42c1;
\x7d

code.highlight .meta \x7b
  color: #005cc5;
\x7d

code.highlight .string,
code.highlight .constant \x7b
  color: #032f62;
\x7d

code.highlight .variable.parameter \x7b
  color: #e36209;
\x7d
"

def fontHeader : String :=
  "<link href=\"https://fonts.googleapis.com/css?family=Ubuntu+Mono:400,700\" rel=\"stylesheet\">"

end SchemaPages.Html
