import JournalSite.Host.PageSettings
import JournalSite.Markup
import JournalSite.Text.Digits

/-!
# Reloading

While the site is being worked on, a page follows its changes: a script in its
head listens to the server, changes the parts of the page that a message names,
fetches a changed style sheet anew or loads the whole page again. The script is
the same for every page; the port and the protocol by which it listens are
handed to it at its end.
-/

namespace JournalSite.ReloadScript

open JournalSite.Markup

/-- The script finds the parts of the page that a message is about, line by line. -/
def instanceLines : List String :=
  ["console.log(\"[HOT RELOADING] Connected to server.\");",
   "function patch(json) \x7b",
   "  try \x7b",
   "    const views = JSON.parse(json);",
   "    for (const [id, patches] of views) \x7b",
   "      console.log(\"[HOT RELOAD]\", id, patches);",
   "      const walker = document.createTreeWalker(",
   "          document.body,",
   "          NodeFilter.SHOW_COMMENT,",
   "        ),",
   "        open = `hot-reload|$\x7bid\x7d|open`,",
   "        close = `hot-reload|$\x7bid\x7d|close`;",
   "      let start, end;",
   "      const instances = [];",
   "      while (walker.nextNode()) \x7b",
   "        if (walker.currentNode.textContent == open) \x7b",
   "          start = walker.currentNode;",
   "        \x7d else if (walker.currentNode.textContent == close) \x7b",
   "          end = walker.currentNode;",
   "          instances.push([start, end]);",
   "          start = undefined;",
   "          end = undefined;",
   "        \x7d",
   "      \x7d",
   "",
   "      for (const [start, end] of instances) \x7b",
   "        for (const patch of patches) \x7b",
   "          const actualChildren = childrenFromRange(",
   "            start.parentElement,",
   "            start,",
   "            end,",
   "          );",
   "          const child = childAtPath(",
   "            actualChildren.length > 1",
   "              ? \x7b children: actualChildren \x7d",
   "              : actualChildren[0],",
   "            patch.path,",
   "          );",
   "          const action = patch.action;"]

/-- The script changes an element: what is in it, its kind, its attributes or its text. -/
def elementLines : List String :=
  ["          if (action == \"ClearChildren\") \x7b",
   "            console.log(\"[HOT RELOAD] > ClearChildren\", child.node);",
   "            if (child.node) \x7b",
   "              child.node.textContent = \"\";",
   "            \x7d else \x7b",
   "              for (const existingChild of child.children) \x7b",
   "                let parent = existingChild.node.parentElement;",
   "                parent.removeChild(existingChild.node);",
   "              \x7d",
   "            \x7d",
   "          \x7d else if (action.ReplaceWith) \x7b",
   "            console.log(",
   "              \"[HOT RELOAD] > ReplaceWith\",",
   "              child,",
   "              action.ReplaceWith,",
   "            );",
   "            const replacement = fromReplacementNode(",
   "              action.ReplaceWith,",
   "              actualChildren,",
   "            );",
   "            if (child.node) \x7b",
   "              child.node.replaceWith(replacement);",
   "            \x7d else \x7b",
   "              if (child.children) \x7b",
   "                child.children[0].node.parentElement.insertBefore(",
   "                  replacement,",
   "                  child.children[0].node,",
   "                );",
   "                for (const existingChild of child.children) \x7b",
   "                  existingChild.node.parentElement.removeChild(",
   "                    existingChild.node,",
   "                  );",
   "                \x7d",
   "              \x7d",
   "            \x7d",
   "          \x7d else if (action.ChangeTagName) \x7b",
   "            const oldNode = child.node;",
   "            console.log(",
   "              \"[HOT RELOAD] > ChangeTagName\",",
   "              child.node,",
   "              action.ChangeTagName,",
   "            );",
   "            const newElement = document.createElement(action.ChangeTagName);",
   "            for (const attr of oldNode.attributes) \x7b",
   "              newElement.setAttribute(attr.name, attr.value);",
   "            \x7d",
   "            for (const childNode of child.node.childNodes) \x7b",
   "              newElement.appendChild(childNode);",
   "            \x7d",
   "",
   "            child.node.replaceWith(newElement);",
   "          \x7d else if (action.RemoveAttribute) \x7b",
   "            console.log(",
   "              \"[HOT RELOAD] > RemoveAttribute\",",
   "              child.node,",
   "              action.RemoveAttribute,",
   "            );",
   "            child.node.removeAttribute(action.RemoveAttribute);",
   "          \x7d else if (action.SetAttribute) \x7b",
   "            const [name, value] = action.SetAttribute;",
   "            console.log(",
   "              \"[HOT RELOAD] > SetAttribute\",",
   "              child.node,",
   "              action.SetAttribute,",
   "            );",
   "            child.node.setAttribute(name, value);",
   "          \x7d else if (action.SetText) \x7b",
   "            const node = child.node;",
   "            console.log(\"[HOT RELOAD] > SetText\", child.node, action.SetText);",
   "            node.textContent = action.SetText;"]

/-- The script changes which children an element has. -/
def childLines : List String :=
  ["          \x7d else if (action.AppendChildren) \x7b",
   "            console.log(",
   "              \"[HOT RELOAD] > AppendChildren\",",
   "              child.node,",
   "              action.AppendChildren,",
   "            );",
   "            const newChildren = action.AppendChildren.map((x) =>",
   "              fromReplacementNode(x, actualChildren),",
   "            );",
   "            child.node.append(...newChildren);",
   "          \x7d else if (action.RemoveChild) \x7b",
   "            console.log(",
   "              \"[HOT RELOAD] > RemoveChild\",",
   "              child.node,",
   "              child.children,",
   "              action.RemoveChild,",
   "            );",
   "            const toRemove = child.children[action.RemoveChild.at];",
   "            let toRemoveNode = toRemove.node;",
   "            if (!toRemoveNode) \x7b",
   "              const range = new Range();",
   "              range.setStartBefore(toRemove.start);",
   "              range.setEndAfter(toRemove.end);",
   "              toRemoveNode = range.deleteContents();",
   "            \x7d else \x7b",
   "              toRemoveNode.parentNode.removeChild(toRemoveNode);",
   "            \x7d",
   "          \x7d else if (action.InsertChild) \x7b",
   "            const newChild = fromReplacementNode(",
   "              action.InsertChild.child,",
   "              actualChildren,",
   "            );",
   "            let children = [];",
   "            if (child.children) \x7b",
   "              children = child.children;",
   "            \x7d else if (child.start && child.end) \x7b",
   "              children = childrenFromRange(",
   "                child.node || child.start.parentElement,",
   "                start,",
   "                end,",
   "              );",
   "            \x7d else \x7b",
   "              console.warn(\"InsertChildAfter could not build children.\");",
   "            \x7d",
   "            const beforeNode = children[action.InsertChild.before];",
   "            console.log(",
   "              \"[HOT RELOAD] > InsertChild\",",
   "              child,",
   "              child.node,",
   "              action.InsertChild,",
   "              \" before \",",
   "              beforeNode,",
   "            );",
   "            if (beforeNode) \x7b",
   "              let node = beforeNode.node || beforeNode.start.previousSibling;",
   "              node.parentElement.insertBefore(newChild, node);",
   "            \x7d else if (child.node) \x7b",
   "              child.node.appendChild(newChild);",
   "            \x7d else if (children) \x7b",
   "              let lastNode = children[children.length - 1];",
   "              let afterNode = lastNode.node || lastNode.end.nextSibling;",
   "              afterNode.after(newChild);",
   "            \x7d",
   "          \x7d else if (action.InsertChildAfter) \x7b",
   "            const newChild = fromReplacementNode(",
   "              action.InsertChildAfter.child,",
   "              actualChildren,",
   "            );",
   "            let children = [];",
   "            if (child.children) \x7b",
   "              children = child.children;",
   "            \x7d else if (child.start && child.end) \x7b",
   "              children = childrenFromRange(",
   "                child.node || child.start.parentElement,",
   "                start,",
   "                end,",
   "              );",
   "            \x7d else \x7b",
   "              console.warn(\"InsertChildAfter could not build children.\");",
   "            \x7d",
   "            const after = children[action.InsertChildAfter.after];",
   "            console.log(",
   "              \"[HOT RELOAD] > InsertChildAfter\",",
   "              child,",
   "              child.node,",
   "              action.InsertChildAfter,",
   "              \" after \",",
   "              after,",
   "            );",
   "            if (",
   "              child.node &&",
   "              (!after || !(after.node || after.start).nextSibling)",
   "            ) \x7b",
   "              child.node.appendChild(newChild);",
   "            \x7d else \x7b",
   "              const node = child.node || child.end;",
   "              const parent =",
   "                node.nodeType === Node.COMMENT_NODE ? node.parentNode : node;",
   "              if (!after) \x7b",
   "                parent.appendChild(newChild);",
   "              \x7d else \x7b",
   "                parent.insertBefore(",
   "                  newChild,",
   "                  (after.node || after.start).nextSibling,",
   "                );",
   "              \x7d",
   "            \x7d",
   "          \x7d else \x7b",
   "            console.warn(\"[HOT RELOADING] Unmatched action\", action);",
   "          \x7d",
   "        \x7d",
   "      \x7d",
   "    \x7d",
   "  \x7d catch (e) \x7b",
   "    console.warn(\"[HOT RELOADING] Error: \", e);",
   "  \x7d",
   ""]

/-- The script builds what takes the place of a part. -/
def replacementLines : List String :=
  ["  function fromReplacementNode(node, actualChildren) \x7b",
   "    if (node.Html) \x7b",
   "      return fromHTML(node.Html);",
   "    \x7d else if (node.Fragment) \x7b",
   "      const frag = document.createDocumentFragment();",
   "      for (const child of node.Fragment) \x7b",
   "        frag.appendChild(fromReplacementNode(child, actualChildren));",
   "      \x7d",
   "      return frag;",
   "    \x7d else if (node.Element) \x7b",
   "      const element = document.createElement(node.Element.name);",
   "      for (const [name, value] of node.Element.attrs) \x7b",
   "        element.setAttribute(name, value);",
   "      \x7d",
   "      for (const child of node.Element.children) \x7b",
   "        element.appendChild(fromReplacementNode(child, actualChildren));",
   "      \x7d",
   "      return element;",
   "    \x7d else \x7b",
   "      const child = childAtPath(",
   "        actualChildren.length > 1",
   "          ? \x7b children: actualChildren \x7d",
   "          : actualChildren[0],",
   "        node.Path,",
   "      );",
   "      if (child) \x7b",
   "        let childNode = child.node;",
   "        if (!childNode) \x7b",
   "          const range = new Range();",
   "          range.setStartBefore(child.start);",
   "          range.setEndAfter(child.end);",
   "          // okay this is somewhat silly",
   "          // if we do cloneContents() here to return it,",
   "          // we strip away the event listeners",
   "          // if we're moving just one object, this is less than ideal",
   "          // so I'm actually going to *extract* them, then clone and reinsert",
   "          /* const toReinsert = range.cloneContents();",
   "\t\t\t\t\tif (child.end.nextSibling) \x7b",
   "\t\t\t\t\t\tchild.end.parentNode.insertBefore(toReinsert, child.end.nextSibling);",
   "\t\t\t\t\t\x7d else \x7b",
   "\t\t\t\t\t\tchild.end.parentNode.appendChild(toReinsert);",
   "\t\t\t\t\t\x7d */",
   "          childNode = range.cloneContents();",
   "        \x7d",
   "        return childNode;",
   "      \x7d else \x7b",
   "        console.warn(",
   "          \"[HOT RELOADING] Could not find replacement node at \",",
   "          node.Path,",
   "        );",
   "        return undefined;",
   "      \x7d",
   "    \x7d",
   "  \x7d",
   ""]

/-- The script lists the parts of an element. -/
def inventoryLines : List String :=
  ["  function buildActualChildren(element, range) \x7b",
   "    const walker = document.createTreeWalker(",
   "      element,",
   "      NodeFilter.SHOW_ELEMENT | NodeFilter.SHOW_TEXT | NodeFilter.SHOW_COMMENT,",
   "      \x7b",
   "        acceptNode(node) \x7b",
   "          if (",
   "            node.parentNode == element &&",
   "            (!range || range.isPointInRange(node, 0))",
   "          ) \x7b",
   "            return NodeFilter.FILTER_ACCEPT;",
   "          \x7d else \x7b",
   "            return NodeFilter.FILTER_REJECT;",
   "          \x7d",
   "        \x7d,",
   "      \x7d,",
   "    );",
   "    const actualChildren = [],",
   "      elementCount = \x7b\x7d;",
   "    while (walker.nextNode()) \x7b",
   "      if (walker.currentNode.nodeType == Node.ELEMENT_NODE) \x7b",
   "        if (elementCount[walker.currentNode.nodeName]) \x7b",
   "          elementCount[walker.currentNode.nodeName] += 1;",
   "        \x7d else \x7b",
   "          elementCount[walker.currentNode.nodeName] = 0;",
   "        \x7d",
   "        elementCount[walker.currentNode.nodeName];",
   "",
   "        actualChildren.push(\x7b",
   "          type: \"element\",",
   "          name: walker.currentNode.nodeName,",
   "          number: elementCount[walker.currentNode.nodeName],",
   "          node: walker.currentNode,",
   "          children: buildActualChildren(walker.currentNode),",
   "        \x7d);",
   "      \x7d else if (walker.currentNode.nodeType == Node.TEXT_NODE) \x7b",
   "        actualChildren.push(\x7b",
   "          type: \"text\",",
   "          node: walker.currentNode,",
   "        \x7d);",
   "      \x7d else if (walker.currentNode.nodeType == Node.COMMENT_NODE) \x7b",
   "        if (walker.currentNode.textContent.trim().startsWith(\"hot-reload|\")) \x7b",
   "          if (walker.currentNode.textContent.trim().endsWith(\"|open\")) \x7b",
   "            const startingName = walker.currentNode.textContent.trim();",
   "            const componentName = startingName",
   "              .replace(\"|open\", \"\")",
   "              .replace(\"hot-reload|\", \"\");",
   "            const endingName = `hot-reload|$\x7bcomponentName\x7d|close`;",
   "            let start = walker.currentNode;",
   "            let depth = 1;",
   "",
   "            while (walker.nextNode()) \x7b",
   "              if (walker.currentNode.textContent.trim() == endingName) \x7b",
   "                depth--;",
   "              \x7d else if (",
   "                walker.currentNode.textContent.trim() == startingName",
   "              ) \x7b",
   "                depth++;",
   "              \x7d",
   "",
   "              if (depth == 0) \x7b",
   "                break;",
   "              \x7d",
   "            \x7d",
   "            let end = walker.currentNode;",
   "            actualChildren.push(\x7b",
   "              type: \"fragment\",",
   "              start: start.nextSibling,",
   "              end: end.previousSibling,",
   "              children: childrenFromRange(",
   "                start.parentElement,",
   "                start.nextSibling,",
   "                end.previousSibling,",
   "              ),",
   "            \x7d);",
   "          \x7d",
   "        \x7d else if (walker.currentNode.textContent.trim() == \"<() />\") \x7b",
   "          actualChildren.push(\x7b",
   "            type: \"unit\",",
   "            node: walker.currentNode,",
   "          \x7d);",
   "        \x7d else if (walker.currentNode.textContent.trim() == \"<DynChild>\") \x7b",
   "          let start = walker.currentNode;",
   "          let depth = 1;",
   "",
   "          while (walker.nextNode()) \x7b",
   "            if (walker.currentNode.textContent.trim() == \"</DynChild>\") \x7b",
   "              depth--;",
   "            \x7d else if (walker.currentNode.textContent.trim() == \"<DynChild>\") \x7b",
   "              depth++;",
   "            \x7d",
   "",
   "            if (depth == 0) \x7b",
   "              break;",
   "            \x7d",
   "          \x7d",
   "          let end = walker.currentNode;",
   "          actualChildren.push(\x7b",
   "            type: \"dyn-child\",",
   "            start,",
   "            end,",
   "          \x7d);",
   "        \x7d else if (walker.currentNode.textContent.trim() == \"<>\") \x7b",
   "          let start = walker.currentNode;",
   "          let depth = 1;",
   "",
   "          while (walker.nextNode()) \x7b",
   "            if (walker.currentNode.textContent.trim() == \"</>\") \x7b",
   "              depth--;",
   "            \x7d else if (walker.currentNode.textContent.trim() == \"<>\") \x7b",
   "              depth++;",
   "            \x7d",
   "",
   "            if (depth == 0) \x7b",
   "              break;",
   "            \x7d",
   "          \x7d",
   "          let end = walker.currentNode;",
   "          actualChildren.push(\x7b",
   "            type: \"fragment\",",
   "            children: childrenFromRange(start.parentElement, start, end),",
   "            start,",
   "            end,",
   "          \x7d);",
   "        \x7d else if (walker.currentNode.textContent.trim().startsWith(\"<\")) \x7b",
   "          let componentName = walker.currentNode.textContent.trim();",
   "          let endMarker = componentName.replace(\"<\", \"</\");",
   "          let depth = 1;",
   "          let start = walker.currentNode;",
   "          while (walker.nextNode()) \x7b",
   "            if (walker.currentNode.textContent.trim() == endMarker) \x7b",
   "              depth--;",
   "            \x7d else if (walker.currentNode.textContent.trim() == componentName) \x7b",
   "              depth++;",
   "            \x7d",
   "",
   "            if (depth == 0) \x7b",
   "              break;",
   "            \x7d",
   "          \x7d",
   "          let end = walker.currentNode;",
   "          actualChildren.push(\x7b",
   "            type: \"component\",",
   "            start,",
   "            end,",
   "          \x7d);",
   "        \x7d",
   "      \x7d else \x7b",
   "        console.warn(",
   "          \"[HOT RELOADING] Building children, encountered\",",
   "          walker.currentNode,",
   "        );",
   "      \x7d",
   "    \x7d",
   "    return actualChildren;",
   "  \x7d",
   ""]

/-- The script follows a path of numbers to a part, and reads markup. -/
def accessLines : List String :=
  ["  function childAtPath(element, path) \x7b",
   "    if (path.length == 0) \x7b",
   "      return element;",
   "    \x7d else if (element.children) \x7b",
   "      const next = element.children[path[0]],",
   "        rest = path.slice(1);",
   "      return childAtPath(next, rest);",
   "    \x7d else if (path == [0]) \x7b",
   "      return element;",
   "    \x7d else if (element.start && element.end) \x7b",
   "      const actualChildren = childrenFromRange(",
   "        element.node || element.start.parentElement,",
   "        element.start,",
   "        element.end,",
   "      );",
   "      return childAtPath(\x7b children: actualChildren \x7d, path);",
   "    \x7d else \x7b",
   "      console.warn(\"[HOT RELOADING] Child at \", path, \"not found in \", element);",
   "      return element;",
   "    \x7d",
   "  \x7d",
   "",
   "  function childrenFromRange(parent, start, end) \x7b",
   "    const range = new Range();",
   "    range.setStartAfter(start);",
   "    range.setEndBefore(end);",
   "    return buildActualChildren(parent, range);",
   "  \x7d",
   "",
   "  function fromHTML(html) \x7b",
   "    const template = document.createElement(\"template\");",
   "    template.innerHTML = html;",
   "    return template.content.cloneNode(true);",
   "  \x7d",
   "\x7d"]

/-- The script keeps a connection to the server and does what the messages on it say. -/
def connectionLines : List String :=
  ["if (window.location.protocol === \"https:\") \x7b",
   "\tprotocol = \"wss://\";",
   "\x7d",
   "",
   "let host = window.location.hostname;",
   "",
   "function connect() \x7b",
   "\tlet ws = new WebSocket(`$\x7bprotocol\x7d$\x7bhost\x7d:$\x7breload_port\x7d/live_reload`);",
   "",
   "\tws.onmessage = (ev) => \x7b",
   "\t\tlet msg = JSON.parse(ev.data);",
   "\t\tif (msg.all) window.location.reload();",
   "\t\tif (msg.css) \x7b",
   "\t\t\tlet found = false;",
   "\t\t\tdocument.querySelectorAll(\"link\").forEach((link) => \x7b",
   "\t\t\t\tif (link.getAttribute(\"href\").includes(msg.css)) \x7b",
   "\t\t\t\t\tlet newHref = \"/\" + msg.css + \"?version=\" + Date.now();",
   "\t\t\t\t\tlink.setAttribute(\"href\", newHref);",
   "\t\t\t\t\tfound = true;",
   "\t\t\t\t\x7d",
   "\t\t\t\x7d);",
   "\t\t\tif (!found)",
   "\t\t\t\tconsole.warn(",
   "\t\t\t\t\t`CSS hot-reload: Could not find a <link href=/\\\"$\x7bmsg.css\x7d\\\"> element`,",
   "\t\t\t\t);",
   "\t\t\x7d",
   "\t\tif (msg.view) \x7b",
   "\t\t\tpatch(msg.view);",
   "\t\t\x7d",
   "\t\x7d;",
   "",
   "\tws.onclose = () => \x7b",
   "\t\tconsole.warn(\"Live-reload disconnected. Reconnecting...\");",
   "\t\tsetTimeout(connect, 1000);",
   "\t\x7d;",
   "",
   "\tws.onerror = () => \x7b",
   "\t\tws.close();",
   "\t\x7d;",
   "\x7d",
   "",
   "connect();"]

/-- Lines with a line feed at the end of each. -/
def block (lines : List String) : String :=
  String.join (lines.map (· ++ "\n"))

/-- The part of the script that changes the page. -/
def patcher : String :=
  block (instanceLines ++ elementLines ++ childLines ++ replacementLines ++ inventoryLines ++
    accessLines)

/-- The call of the script. The port seen from outside goes before the port itself. -/
def call (settings : PageSettings) : String :=
  "(function (reload_port, protocol) \x7b " ++ patcher ++ " " ++ block connectionLines ++
    " \x7d)(" ++
    Text.decimal (settings.externalReloadPort.getD settings.reloadPort) ++ ", '" ++
    settings.reloadProtocol.scheme ++ "')"

/-- What stands in the head of a page: the script if the site is being watched. -/
def markup (settings : PageSettings) (secret : String) : Markup :=
  if settings.watched then element "script" [⟨"nonce", secret⟩] (verbatim (call settings))
  else marker

end JournalSite.ReloadScript
