/-!
# The document type of mapping documents

The text that is bundled for documents of this type, used unless a schema brings its own.
-/

namespace EntityScaffold.Schema

/-- The bundled document type definition of mapping documents. -/
def mappingDtd : String :=
  r#"<!-- Hibernate Mapping DTD.

<!DOCTYPE hibernate-mapping PUBLIC
	"-//Hibernate/Hibernate Mapping DTD 3.0//EN"
	"http://www.hibernate.org/dtd/hibernate-mapping-3.0.dtd">

An instance of this XML document may contain mappings for an arbitrary
number of classes. The class mappings may contain associations to classes
mapped in the same document or in another document. No class may be
mapped more than once. Each document may also contain definitions of an
arbitrary number of queries, and import declarations of arbitrary classes.

-->

<!-- The document root. -->

<!ELEMENT hibernate-mapping (
	meta*,
	identifier-generator*,
	typedef*,
	filter-def*,
	import*,
	(class|subclass|joined-subclass|union-subclass)*,
	resultset*,
	(query|sql-query)*,
	filter-def*,
	fetch-profile*,
	database-object*
)>
	<!ATTLIST hibernate-mapping schema CDATA #IMPLIED>
	<!ATTLIST hibernate-mapping catalog CDATA #IMPLIED>
	<!ATTLIST hibernate-mapping default-cascade CDATA "none">
	<!ATTLIST hibernate-mapping default-access CDATA "property">
	<!ATTLIST hibernate-mapping default-lazy (true|false) "true">
	<!ATTLIST hibernate-mapping auto-import (true|false) "true">
	<!ATTLIST hibernate-mapping package CDATA #IMPLIED>

<!ELEMENT meta (#PCDATA)>
	<!ATTLIST meta attribute CDATA #REQUIRED>
	<!ATTLIST meta inherit (true|false) "true">

<!ELEMENT identifier-generator EMPTY>
	<!ATTLIST identifier-generator name CDATA #REQUIRED>
	<!ATTLIST identifier-generator class CDATA #REQUIRED>

<!ELEMENT typedef (param*)>
	<!ATTLIST typedef class CDATA #REQUIRED>
	<!ATTLIST typedef name CDATA #REQUIRED>

<!ELEMENT import EMPTY>
	<!ATTLIST import class CDATA #REQUIRED>
	<!ATTLIST import rename CDATA #IMPLIED>

<!-- Root entity mapping. -->

<!ELEMENT class (
	meta*,
	subselect?,
	cache?,
	synchronize*,
	comment?,
	tuplizer*,
	(id|composite-id),
	discriminator?,
	natural-id?,
	(version|timestamp)?,
	(property|many-to-one|one-to-one|component|dynamic-component|properties|any|map|set|list|bag|idbag|array|primitive-array)*,
	((join*,subclass*)|joined-subclass*|union-subclass*),
	loader?,sql-insert?,sql-update?,sql-delete?,
	filter*,
	fetch-profile*,
	resultset*,
	(query|sql-query)*
)>
	<!ATTLIST class entity-name CDATA #IMPLIED>
	<!ATTLIST class name CDATA #IMPLIED>
	<!ATTLIST class proxy CDATA #IMPLIED>
	<!ATTLIST class lazy (true|false) #IMPLIED>
	<!ATTLIST class table CDATA #IMPLIED>
	<!ATTLIST class schema CDATA #IMPLIED>
	<!ATTLIST class catalog CDATA #IMPLIED>
	<!ATTLIST class subselect CDATA #IMPLIED>
	<!ATTLIST class discriminator-value CDATA #IMPLIED>
	<!ATTLIST class mutable (true|false) "true">
	<!ATTLIST class abstract (true|false) #IMPLIED>
	<!ATTLIST class polymorphism (implicit|explicit) "implicit">
	<!ATTLIST class where CDATA #IMPLIED>
	<!ATTLIST class persister CDATA #IMPLIED>
	<!ATTLIST class dynamic-update (true|false) "false">
	<!ATTLIST class dynamic-insert (true|false) "false">
	<!ATTLIST class batch-size CDATA #IMPLIED>
	<!ATTLIST class select-before-update (true|false) "false">
	<!ATTLIST class optimistic-lock (none|version|dirty|all) "version">
	<!ATTLIST class check CDATA #IMPLIED>
	<!ATTLIST class rowid CDATA #IMPLIED>
	<!ATTLIST class node CDATA #IMPLIED>

<!ELEMENT tuplizer EMPTY>
	<!ATTLIST tuplizer entity-mode (pojo|dom4j|dynamic-map) #IMPLIED>
	<!ATTLIST tuplizer class CDATA #REQUIRED>

<!ELEMENT id (meta*,column*,type?,generator?)>
	<!ATTLIST id name CDATA #IMPLIED>
	<!ATTLIST id node CDATA #IMPLIED>
	<!ATTLIST id access CDATA #IMPLIED>
	<!ATTLIST id column CDATA #IMPLIED>
	<!ATTLIST id length CDATA #IMPLIED>
	<!ATTLIST id type CDATA #IMPLIED>
	<!ATTLIST id unsaved-value CDATA #IMPLIED>

<!ELEMENT composite-id ( meta*, (key-property|key-many-to-one)+, generator? )>
	<!ATTLIST composite-id class CDATA #IMPLIED>
	<!ATTLIST composite-id mapped (true|false) "false">
	<!ATTLIST composite-id name CDATA #IMPLIED>
	<!ATTLIST composite-id node CDATA #IMPLIED>
	<!ATTLIST composite-id access CDATA #IMPLIED>
	<!ATTLIST composite-id unsaved-value (undefined|any|none) "undefined">

<!ELEMENT discriminator ((column|formula)?)>
	<!ATTLIST discriminator column CDATA #IMPLIED>
	<!ATTLIST discriminator formula CDATA #IMPLIED>
	<!ATTLIST discriminator type CDATA "string">
	<!ATTLIST discriminator not-null (true|false) "true">
	<!ATTLIST discriminator length CDATA #IMPLIED>
	<!ATTLIST discriminator force (true|false) "false">
	<!ATTLIST discriminator insert (true|false) "true">

<!ELEMENT version (meta*,column*)>
	<!ATTLIST version column CDATA #IMPLIED>
	<!ATTLIST version name CDATA #REQUIRED>
	<!ATTLIST version node CDATA #IMPLIED>
	<!ATTLIST version access CDATA #IMPLIED>
	<!ATTLIST version type CDATA "integer">
	<!ATTLIST version unsaved-value CDATA #IMPLIED>
	<!ATTLIST version generated (never|always) "never">
	<!ATTLIST version insert (true|false) #IMPLIED>

<!ELEMENT timestamp (meta*)>
	<!ATTLIST timestamp column CDATA #IMPLIED>
	<!ATTLIST timestamp name CDATA #REQUIRED>
	<!ATTLIST timestamp node CDATA #IMPLIED>
	<!ATTLIST timestamp access CDATA #IMPLIED>
	<!ATTLIST timestamp unsaved-value (null|undefined) "null">
	<!ATTLIST timestamp source (vm|db) "vm">
	<!ATTLIST timestamp generated (never|always) "never">

<!-- Nested entity mappings. -->

<!ELEMENT subclass (
	meta*,
	tuplizer*,
	synchronize*,
	(property|many-to-one|one-to-one|component|dynamic-component|properties|any|map|set|list|bag|idbag|array|primitive-array)*,
	join*,
	subclass*,
	loader?,sql-insert?,sql-update?,sql-delete?,
	fetch-profile*,
	resultset*,
	(query|sql-query)*
)>
	<!ATTLIST subclass entity-name CDATA #IMPLIED>
	<!ATTLIST subclass name CDATA #IMPLIED>
	<!ATTLIST subclass proxy CDATA #IMPLIED>
	<!ATTLIST subclass discriminator-value CDATA #IMPLIED>
	<!ATTLIST subclass dynamic-update (true|false) "false">
	<!ATTLIST subclass dynamic-insert (true|false) "false">
	<!ATTLIST subclass select-before-update (true|false) "false">
	<!ATTLIST subclass extends CDATA #IMPLIED>
	<!ATTLIST subclass lazy (true|false) #IMPLIED>
	<!ATTLIST subclass abstract (true|false) #IMPLIED>
	<!ATTLIST subclass persister CDATA #IMPLIED>
	<!ATTLIST subclass batch-size CDATA #IMPLIED>
	<!ATTLIST subclass node CDATA #IMPLIED>

<!ELEMENT joined-subclass (
	meta*,
	subselect?,
	synchronize*,
	comment?,
	tuplizer*,
	key,
	(property|many-to-one|one-to-one|component|dynamic-component|properties|any|map|set|list|bag|idbag|array|primitive-array)*,
	joined-subclass*,
	loader?,sql-insert?,sql-update?,sql-delete?,
	fetch-profile*,
	resultset*,
	(query|sql-query)*
)>
	<!ATTLIST joined-subclass entity-name CDATA #IMPLIED>
	<!ATTLIST joined-subclass name CDATA #IMPLIED>
	<!ATTLIST joined-subclass proxy CDATA #IMPLIED>
	<!ATTLIST joined-subclass table CDATA #IMPLIED>
	<!ATTLIST joined-subclass schema CDATA #IMPLIED>
	<!ATTLIST joined-subclass catalog CDATA #IMPLIED>
	<!ATTLIST joined-subclass subselect CDATA #IMPLIED>
	<!ATTLIST joined-subclass dynamic-update (true|false) "false">
	<!ATTLIST joined-subclass dynamic-insert (true|false) "false">
	<!ATTLIST joined-subclass select-before-update (true|false) "false">
	<!ATTLIST joined-subclass extends CDATA #IMPLIED>
	<!ATTLIST joined-subclass lazy (true|false) #IMPLIED>
	<!ATTLIST joined-subclass abstract (true|false) #IMPLIED>
	<!ATTLIST joined-subclass persister CDATA #IMPLIED>
	<!ATTLIST joined-subclass check CDATA #IMPLIED>
	<!ATTLIST joined-subclass batch-size CDATA #IMPLIED>
	<!ATTLIST joined-subclass node CDATA #IMPLIED>

<!ELEMENT union-subclass (
	meta*,
	subselect?,
	synchronize*,
	comment?,
	tuplizer*,
	(property|many-to-one|one-to-one|component|dynamic-component|properties|any|map|set|list|bag|idbag|array|primitive-array)*,
	union-subclass*,
	loader?,sql-insert?,sql-update?,sql-delete?,
	fetch-profile*,
	resultset*,
	(query|sql-query)*
)>
	<!ATTLIST union-subclass entity-name CDATA #IMPLIED>
	<!ATTLIST union-subclass name CDATA #IMPLIED>
	<!ATTLIST union-subclass proxy CDATA #IMPLIED>
	<!ATTLIST union-subclass table CDATA #IMPLIED>
	<!ATTLIST union-subclass schema CDATA #IMPLIED>
	<!ATTLIST union-subclass catalog CDATA #IMPLIED>
	<!ATTLIST union-subclass subselect CDATA #IMPLIED>
	<!ATTLIST union-subclass dynamic-update (true|false) "false">
	<!ATTLIST union-subclass dynamic-insert (true|false) "false">
	<!ATTLIST union-subclass select-before-update (true|false) "false">
	<!ATTLIST union-subclass extends CDATA #IMPLIED>
	<!ATTLIST union-subclass lazy (true|false) #IMPLIED>
	<!ATTLIST union-subclass abstract (true|false) #IMPLIED>
	<!ATTLIST union-subclass persister CDATA #IMPLIED>
	<!ATTLIST union-subclass check CDATA #IMPLIED>
	<!ATTLIST union-subclass batch-size CDATA #IMPLIED>
	<!ATTLIST union-subclass node CDATA #IMPLIED>

<!ELEMENT join (
	subselect?,
	comment?,
	key,
	(property|many-to-one|component|dynamic-component|any)*,
	sql-insert?,sql-update?,sql-delete?
)>
	<!ATTLIST join table CDATA #REQUIRED>
	<!ATTLIST join schema CDATA #IMPLIED>
	<!ATTLIST join catalog CDATA #IMPLIED>
	<!ATTLIST join subselect CDATA #IMPLIED>
	<!ATTLIST join fetch (join|select) "join">
	<!ATTLIST join inverse (true|false) "false">
	<!ATTLIST join optional (true|false) "false">

<!-- Properties and associations. -->

<!ELEMENT property (meta*,(column|formula)*,type?)>
	<!ATTLIST property name CDATA #REQUIRED>
	<!ATTLIST property node CDATA #IMPLIED>
	<!ATTLIST property access CDATA #IMPLIED>
	<!ATTLIST property type CDATA #IMPLIED>
	<!ATTLIST property column CDATA #IMPLIED>
	<!ATTLIST property length CDATA #IMPLIED>
	<!ATTLIST property precision CDATA #IMPLIED>
	<!ATTLIST property scale CDATA #IMPLIED>
	<!ATTLIST property not-null (true|false) #IMPLIED>
	<!ATTLIST property unique (true|false) "false">
	<!ATTLIST property unique-key CDATA #IMPLIED>
	<!ATTLIST property index CDATA #IMPLIED>
	<!ATTLIST property update (true|false) #IMPLIED>
	<!ATTLIST property insert (true|false) #IMPLIED>
	<!ATTLIST property optimistic-lock (true|false) "true">
	<!ATTLIST property formula CDATA #IMPLIED>
	<!ATTLIST property lazy (true|false) "false">
	<!ATTLIST property generated (never|insert|always) "never">

<!ELEMENT type (param*)>
	<!ATTLIST type name CDATA #REQUIRED>

<!ELEMENT many-to-one (meta*,(column|formula)*)>
	<!ATTLIST many-to-one name CDATA #REQUIRED>
	<!ATTLIST many-to-one access CDATA #IMPLIED>
	<!ATTLIST many-to-one class CDATA #IMPLIED>
	<!ATTLIST many-to-one entity-name CDATA #IMPLIED>
	<!ATTLIST many-to-one column CDATA #IMPLIED>
	<!ATTLIST many-to-one not-null (true|false) #IMPLIED>
	<!ATTLIST many-to-one unique (true|false) "false">
	<!ATTLIST many-to-one unique-key CDATA #IMPLIED>
	<!ATTLIST many-to-one index CDATA #IMPLIED>
	<!ATTLIST many-to-one cascade CDATA #IMPLIED>
	<!ATTLIST many-to-one outer-join (true|false|auto) #IMPLIED>
	<!ATTLIST many-to-one fetch (join|select) #IMPLIED>
	<!ATTLIST many-to-one update (true|false) "true">
	<!ATTLIST many-to-one insert (true|false) "true">
	<!ATTLIST many-to-one optimistic-lock (true|false) "true">
	<!ATTLIST many-to-one foreign-key CDATA #IMPLIED>
	<!ATTLIST many-to-one property-ref CDATA #IMPLIED>
	<!ATTLIST many-to-one formula CDATA #IMPLIED>
	<!ATTLIST many-to-one lazy (false|proxy|no-proxy) #IMPLIED>
	<!ATTLIST many-to-one not-found (exception|ignore) "exception">
	<!ATTLIST many-to-one node CDATA #IMPLIED>
	<!ATTLIST many-to-one embed-xml (true|false) "true">

<!ELEMENT one-to-one (meta*,formula*)>
	<!ATTLIST one-to-one name CDATA #REQUIRED>
	<!ATTLIST one-to-one formula CDATA #IMPLIED>
	<!ATTLIST one-to-one access CDATA #IMPLIED>
	<!ATTLIST one-to-one class CDATA #IMPLIED>
	<!ATTLIST one-to-one entity-name CDATA #IMPLIED>
	<!ATTLIST one-to-one cascade CDATA #IMPLIED>
	<!ATTLIST one-to-one outer-join (true|false|auto) #IMPLIED>
	<!ATTLIST one-to-one fetch (join|select) #IMPLIED>
	<!ATTLIST one-to-one constrained (true|false) "false">
	<!ATTLIST one-to-one foreign-key CDATA #IMPLIED>
	<!ATTLIST one-to-one property-ref CDATA #IMPLIED>
	<!ATTLIST one-to-one lazy (false|proxy|no-proxy) #IMPLIED>
	<!ATTLIST one-to-one node CDATA #IMPLIED>
	<!ATTLIST one-to-one embed-xml (true|false) "true">

<!ELEMENT key-property (meta*,column*,type?)>
	<!ATTLIST key-property name CDATA #REQUIRED>
	<!ATTLIST key-property access CDATA #IMPLIED>
	<!ATTLIST key-property type CDATA #IMPLIED>
	<!ATTLIST key-property column CDATA #IMPLIED>
	<!ATTLIST key-property length CDATA #IMPLIED>
	<!ATTLIST key-property node CDATA #IMPLIED>

<!ELEMENT key-many-to-one (meta*,column*)>
	<!ATTLIST key-many-to-one name CDATA #REQUIRED>
	<!ATTLIST key-many-to-one access CDATA #IMPLIED>
	<!ATTLIST key-many-to-one class CDATA #IMPLIED>
	<!ATTLIST key-many-to-one entity-name CDATA #IMPLIED>
	<!ATTLIST key-many-to-one column CDATA #IMPLIED>
	<!ATTLIST key-many-to-one foreign-key CDATA #IMPLIED>
	<!ATTLIST key-many-to-one lazy (false|proxy) #IMPLIED>

<!ELEMENT component (
	meta*,
	tuplizer*,
	parent?,
	(property|many-to-one|one-to-one|component|dynamic-component|any|map|set|list|bag|array|primitive-array)*
)>
	<!ATTLIST component class CDATA #IMPLIED>
	<!ATTLIST component name CDATA #REQUIRED>
	<!ATTLIST component access CDATA #IMPLIED>
	<!ATTLIST component unique (true|false) "false">
	<!ATTLIST component update (true|false) "true">
	<!ATTLIST component insert (true|false) "true">
	<!ATTLIST component lazy (true|false) "false">
	<!ATTLIST component optimistic-lock (true|false) "true">
	<!ATTLIST component node CDATA #IMPLIED>

<!ELEMENT dynamic-component (
	(property|many-to-one|one-to-one|component|dynamic-component|any|map|set|list|bag|array|primitive-array)*
)>
	<!ATTLIST dynamic-component name CDATA #REQUIRED>
	<!ATTLIST dynamic-component access CDATA #IMPLIED>
	<!ATTLIST dynamic-component unique (true|false) "false">
	<!ATTLIST dynamic-component update (true|false) "true">
	<!ATTLIST dynamic-component insert (true|false) "true">
	<!ATTLIST dynamic-component optimistic-lock (true|false) "true">
	<!ATTLIST dynamic-component node CDATA #IMPLIED>

<!ELEMENT properties (
	(property|many-to-one|component|dynamic-component)*
)>
	<!ATTLIST properties name CDATA #REQUIRED>
	<!ATTLIST properties unique (true|false) "false">
	<!ATTLIST properties insert (true|false) "true">
	<!ATTLIST properties update (true|false) "true">
	<!ATTLIST properties optimistic-lock (true|false) "true">
	<!ATTLIST properties node CDATA #IMPLIED>

<!ELEMENT parent EMPTY>
	<!ATTLIST parent name CDATA #REQUIRED>

<!ELEMENT any (meta*,meta-value*,column,column+)>
	<!ATTLIST any id-type CDATA #REQUIRED>
	<!ATTLIST any meta-type CDATA #IMPLIED>
	<!ATTLIST any name CDATA #REQUIRED>
	<!ATTLIST any access CDATA #IMPLIED>
	<!ATTLIST any insert (true|false) "true">
	<!ATTLIST any update (true|false) "true">
	<!ATTLIST any cascade CDATA #IMPLIED>
	<!ATTLIST any index CDATA #IMPLIED>
	<!ATTLIST any optimistic-lock (true|false) "true">
	<!ATTLIST any lazy (true|false) "false">
	<!ATTLIST any node CDATA #IMPLIED>

<!ELEMENT meta-value EMPTY>
	<!ATTLIST meta-value value CDATA #REQUIRED>
	<!ATTLIST meta-value class CDATA #REQUIRED>

<!-- Collections. -->

<!ELEMENT set (
	meta*,
	subselect?,
	cache?,
	synchronize*,
	comment?,
	key,
	(element|one-to-many|many-to-many|composite-element|many-to-any),
	loader?,sql-insert?,sql-update?,sql-delete?,sql-delete-all?,
	filter*
)>
	<!ATTLIST set name CDATA #REQUIRED>
	<!ATTLIST set access CDATA #IMPLIED>
	<!ATTLIST set table CDATA #IMPLIED>
	<!ATTLIST set schema CDATA #IMPLIED>
	<!ATTLIST set catalog CDATA #IMPLIED>
	<!ATTLIST set subselect CDATA #IMPLIED>
	<!ATTLIST set lazy (true|false|extra) #IMPLIED>
	<!ATTLIST set sort CDATA "unsorted">
	<!ATTLIST set inverse (true|false) "false">
	<!ATTLIST set mutable (true|false) "true">
	<!ATTLIST set cascade CDATA #IMPLIED>
	<!ATTLIST set order-by CDATA #IMPLIED>
	<!ATTLIST set where CDATA #IMPLIED>
	<!ATTLIST set batch-size CDATA #IMPLIED>
	<!ATTLIST set outer-join (true|false|auto) #IMPLIED>
	<!ATTLIST set fetch (join|select|subselect) #IMPLIED>
	<!ATTLIST set persister CDATA #IMPLIED>
	<!ATTLIST set collection-type CDATA #IMPLIED>
	<!ATTLIST set check CDATA #IMPLIED>
	<!ATTLIST set optimistic-lock (true|false) "true">
	<!ATTLIST set node CDATA #IMPLIED>
	<!ATTLIST set embed-xml (true|false) "true">

<!ELEMENT bag (
	meta*,
	subselect?,
	cache?,
	synchronize*,
	comment?,
	key,
	(element|one-to-many|many-to-many|composite-element|many-to-any),
	loader?,sql-insert?,sql-update?,sql-delete?,sql-delete-all?,
	filter*
)>
	<!ATTLIST bag name CDATA #REQUIRED>
	<!ATTLIST bag access CDATA #IMPLIED>
	<!ATTLIST bag table CDATA #IMPLIED>
	<!ATTLIST bag schema CDATA #IMPLIED>
	<!ATTLIST bag catalog CDATA #IMPLIED>
	<!ATTLIST bag subselect CDATA #IMPLIED>
	<!ATTLIST bag lazy (true|false|extra) #IMPLIED>
	<!ATTLIST bag inverse (true|false) "false">
	<!ATTLIST bag mutable (true|false) "true">
	<!ATTLIST bag cascade CDATA #IMPLIED>
	<!ATTLIST bag order-by CDATA #IMPLIED>
	<!ATTLIST bag where CDATA #IMPLIED>
	<!ATTLIST bag batch-size CDATA #IMPLIED>
	<!ATTLIST bag outer-join (true|false|auto) #IMPLIED>
	<!ATTLIST bag fetch (join|select|subselect) #IMPLIED>
	<!ATTLIST bag persister CDATA #IMPLIED>
	<!ATTLIST bag collection-type CDATA #IMPLIED>
	<!ATTLIST bag check CDATA #IMPLIED>
	<!ATTLIST bag optimistic-lock (true|false) "true">
	<!ATTLIST bag node CDATA #IMPLIED>
	<!ATTLIST bag embed-xml (true|false) "true">

<!ELEMENT idbag (
	meta*,
	subselect?,
	cache?,
	synchronize*,
	comment?,
	collection-id,
	key,
	(element|many-to-many|composite-element|many-to-any),
	loader?,sql-insert?,sql-update?,sql-delete?,sql-delete-all?,
	filter*
)>
	<!ATTLIST idbag name CDATA #REQUIRED>
	<!ATTLIST idbag access CDATA #IMPLIED>
	<!ATTLIST idbag table CDATA #IMPLIED>
	<!ATTLIST idbag schema CDATA #IMPLIED>
	<!ATTLIST idbag catalog CDATA #IMPLIED>
	<!ATTLIST idbag subselect CDATA #IMPLIED>
	<!ATTLIST idbag lazy (true|false|extra) #IMPLIED>
	<!ATTLIST idbag mutable (true|false) "true">
	<!ATTLIST idbag cascade CDATA #IMPLIED>
	<!ATTLIST idbag order-by CDATA #IMPLIED>
	<!ATTLIST idbag where CDATA #IMPLIED>
	<!ATTLIST idbag batch-size CDATA #IMPLIED>
	<!ATTLIST idbag outer-join (true|false|auto) #IMPLIED>
	<!ATTLIST idbag fetch (join|select|subselect) #IMPLIED>
	<!ATTLIST idbag persister CDATA #IMPLIED>
	<!ATTLIST idbag collection-type CDATA #IMPLIED>
	<!ATTLIST idbag check CDATA #IMPLIED>
	<!ATTLIST idbag optimistic-lock (true|false) "true">
	<!ATTLIST idbag node CDATA #IMPLIED>
	<!ATTLIST idbag embed-xml (true|false) "true">

<!ELEMENT list (
	meta*,
	subselect?,
	cache?,
	synchronize*,
	comment?,
	key,
	(index|list-index),
	(element|one-to-many|many-to-many|composite-element|many-to-any),
	loader?,sql-insert?,sql-update?,sql-delete?,sql-delete-all?,
	filter*
)>
	<!ATTLIST list name CDATA #REQUIRED>
	<!ATTLIST list access CDATA #IMPLIED>
	<!ATTLIST list table CDATA #IMPLIED>
	<!ATTLIST list schema CDATA #IMPLIED>
	<!ATTLIST list catalog CDATA #IMPLIED>
	<!ATTLIST list subselect CDATA #IMPLIED>
	<!ATTLIST list lazy (true|false|extra) #IMPLIED>
	<!ATTLIST list inverse (true|false) "false">
	<!ATTLIST list mutable (true|false) "true">
	<!ATTLIST list cascade CDATA #IMPLIED>
	<!ATTLIST list where CDATA #IMPLIED>
	<!ATTLIST list batch-size CDATA #IMPLIED>
	<!ATTLIST list outer-join (true|false|auto) #IMPLIED>
	<!ATTLIST list fetch (join|select|subselect) #IMPLIED>
	<!ATTLIST list persister CDATA #IMPLIED>
	<!ATTLIST list collection-type CDATA #IMPLIED>
	<!ATTLIST list check CDATA #IMPLIED>
	<!ATTLIST list optimistic-lock (true|false) "true">
	<!ATTLIST list node CDATA #IMPLIED>
	<!ATTLIST list embed-xml (true|false) "true">

<!ELEMENT map (
	meta*,
	subselect?,
	cache?,
	synchronize*,
	comment?,
	key,
	(map-key|composite-map-key|map-key-many-to-many|index|composite-index|index-many-to-many|index-many-to-any),
	(element|one-to-many|many-to-many|composite-element|many-to-any),
	loader?,sql-insert?,sql-update?,sql-delete?,sql-delete-all?,
	filter*
)>
	<!ATTLIST map name CDATA #REQUIRED>
	<!ATTLIST map access CDATA #IMPLIED>
	<!ATTLIST map table CDATA #IMPLIED>
	<!ATTLIST map schema CDATA #IMPLIED>
	<!ATTLIST map subselect CDATA #IMPLIED>
	<!ATTLIST map catalog CDATA #IMPLIED>
	<!ATTLIST map lazy (true|false|extra) #IMPLIED>
	<!ATTLIST map mutable (true|false) "true">
	<!ATTLIST map inverse (true|false) "false">
	<!ATTLIST map sort CDATA "unsorted">
	<!ATTLIST map cascade CDATA #IMPLIED>
	<!ATTLIST map order-by CDATA #IMPLIED>
	<!ATTLIST map where CDATA #IMPLIED>
	<!ATTLIST map batch-size CDATA #IMPLIED>
	<!ATTLIST map outer-join (true|false|auto) #IMPLIED>
	<!ATTLIST map fetch (join|select|subselect) #IMPLIED>
	<!ATTLIST map check CDATA #IMPLIED>
	<!ATTLIST map persister CDATA #IMPLIED>
	<!ATTLIST map collection-type CDATA #IMPLIED>
	<!ATTLIST map optimistic-lock (true|false) "true">
	<!ATTLIST map node CDATA #IMPLIED>
	<!ATTLIST map embed-xml (true|false) "true">

<!ELEMENT array (
	meta*,
	subselect?,
	cache?,
	synchronize*,
	comment?,
	key,
	(index|list-index),
	(element|one-to-many|many-to-many|composite-element|many-to-any),
	loader?,sql-insert?,sql-update?,sql-delete?,sql-delete-all?
)>
	<!ATTLIST array name CDATA #REQUIRED>
	<!ATTLIST array access CDATA #IMPLIED>
	<!ATTLIST array table CDATA #IMPLIED>
	<!ATTLIST array schema CDATA #IMPLIED>
	<!ATTLIST array catalog CDATA #IMPLIED>
	<!ATTLIST array subselect CDATA #IMPLIED>
	<!ATTLIST array inverse (true|false) "false">
	<!ATTLIST array mutable (true|false) "true">
	<!ATTLIST array element-class CDATA #IMPLIED>
	<!ATTLIST array cascade CDATA #IMPLIED>
	<!ATTLIST array where CDATA #IMPLIED>
	<!ATTLIST array batch-size CDATA #IMPLIED>
	<!ATTLIST array outer-join (true|false|auto) #IMPLIED>
	<!ATTLIST array fetch (join|select|subselect) #IMPLIED>
	<!ATTLIST array persister CDATA #IMPLIED>
	<!ATTLIST array collection-type CDATA #IMPLIED>
	<!ATTLIST array check CDATA #IMPLIED>
	<!ATTLIST array optimistic-lock (true|false) "true">
	<!ATTLIST array node CDATA #IMPLIED>
	<!ATTLIST array embed-xml (true|false) "true">

<!ELEMENT primitive-array (
	meta*,
	subselect?,
	cache?,
	synchronize*,
	comment?,
	key,
	(index|list-index),
	element,
	loader?,sql-insert?,sql-update?,sql-delete?,sql-delete-all?
)>
	<!ATTLIST primitive-array name CDATA #REQUIRED>
	<!ATTLIST primitive-array access CDATA #IMPLIED>
	<!ATTLIST primitive-array table CDATA #IMPLIED>
	<!ATTLIST primitive-array schema CDATA #IMPLIED>
	<!ATTLIST primitive-array catalog CDATA #IMPLIED>
	<!ATTLIST primitive-array subselect CDATA #IMPLIED>
	<!ATTLIST primitive-array mutable (true|false) "true">
	<!ATTLIST primitive-array where CDATA #IMPLIED>
	<!ATTLIST primitive-array batch-size CDATA #IMPLIED>
	<!ATTLIST primitive-array outer-join (true|false|auto) #IMPLIED>
	<!ATTLIST primitive-array fetch (join|select|subselect) #IMPLIED>
	<!ATTLIST primitive-array persister CDATA #IMPLIED>
	<!ATTLIST primitive-array collection-type CDATA #IMPLIED>
	<!ATTLIST primitive-array check CDATA #IMPLIED>
	<!ATTLIST primitive-array optimistic-lock (true|false) "true">
	<!ATTLIST primitive-array node CDATA #IMPLIED>
	<!ATTLIST primitive-array embed-xml (true|false) "true">

<!ELEMENT key (column*)>
	<!ATTLIST key column CDATA #IMPLIED>
	<!ATTLIST key property-ref CDATA #IMPLIED>
	<!ATTLIST key foreign-key CDATA #IMPLIED>
	<!ATTLIST key on-delete (cascade|noaction) "noaction">
	<!ATTLIST key not-null (true|false) #IMPLIED>
	<!ATTLIST key update (true|false) #IMPLIED>
	<!ATTLIST key unique (true|false) #IMPLIED>

<!ELEMENT index (column*)>
	<!ATTLIST index column CDATA #IMPLIED>
	<!ATTLIST index type CDATA #IMPLIED>
	<!ATTLIST index length CDATA #IMPLIED>

<!ELEMENT list-index (column?)>
	<!ATTLIST list-index column CDATA #IMPLIED>
	<!ATTLIST list-index base CDATA "0">

<!ELEMENT map-key ((column|formula)*,type?)>
	<!ATTLIST map-key column CDATA #IMPLIED>
	<!ATTLIST map-key formula CDATA #IMPLIED>
	<!ATTLIST map-key type CDATA #IMPLIED>
	<!ATTLIST map-key length CDATA #IMPLIED>
	<!ATTLIST map-key node CDATA #IMPLIED>

<!ELEMENT composite-map-key ( (key-property|key-many-to-one)+ )>
	<!ATTLIST composite-map-key class CDATA #REQUIRED>

<!ELEMENT map-key-many-to-many ((column|formula)*)>
	<!ATTLIST map-key-many-to-many class CDATA #IMPLIED>
	<!ATTLIST map-key-many-to-many entity-name CDATA #IMPLIED>
	<!ATTLIST map-key-many-to-many column CDATA #IMPLIED>
	<!ATTLIST map-key-many-to-many formula CDATA #IMPLIED>
	<!ATTLIST map-key-many-to-many foreign-key CDATA #IMPLIED>

<!ELEMENT composite-index ( (key-property|key-many-to-one)+ )>
	<!ATTLIST composite-index class CDATA #REQUIRED>

<!ELEMENT index-many-to-many (column*)>
	<!ATTLIST index-many-to-many class CDATA #REQUIRED>
	<!ATTLIST index-many-to-many entity-name CDATA #IMPLIED>
	<!ATTLIST index-many-to-many column CDATA #IMPLIED>
	<!ATTLIST index-many-to-many foreign-key CDATA #IMPLIED>

<!ELEMENT index-many-to-any (column, column+)>
	<!ATTLIST index-many-to-any id-type CDATA #REQUIRED>
	<!ATTLIST index-many-to-any meta-type CDATA #IMPLIED>

<!ELEMENT element ( (column|formula)*, type? )>
	<!ATTLIST element column CDATA #IMPLIED>
	<!ATTLIST element node CDATA #IMPLIED>
	<!ATTLIST element formula CDATA #IMPLIED>
	<!ATTLIST element type CDATA #IMPLIED>
	<!ATTLIST element length CDATA #IMPLIED>
	<!ATTLIST element precision CDATA #IMPLIED>
	<!ATTLIST element scale CDATA #IMPLIED>
	<!ATTLIST element not-null (true|false) "false">
	<!ATTLIST element unique (true|false) "false">

<!ELEMENT one-to-many EMPTY>
	<!ATTLIST one-to-many class CDATA #IMPLIED>
	<!ATTLIST one-to-many not-found (exception|ignore) "exception">
	<!ATTLIST one-to-many node CDATA #IMPLIED>
	<!ATTLIST one-to-many embed-xml (true|false) "true">
	<!ATTLIST one-to-many entity-name CDATA #IMPLIED>

<!ELEMENT many-to-many (meta*,(column|formula)*,filter*)>
	<!ATTLIST many-to-many class CDATA #IMPLIED>
	<!ATTLIST many-to-many node CDATA #IMPLIED>
	<!ATTLIST many-to-many embed-xml (true|false) "true">
	<!ATTLIST many-to-many entity-name CDATA #IMPLIED>
	<!ATTLIST many-to-many column CDATA #IMPLIED>
	<!ATTLIST many-to-many formula CDATA #IMPLIED>
	<!ATTLIST many-to-many not-found (exception|ignore) "exception">
	<!ATTLIST many-to-many outer-join (true|false|auto) #IMPLIED>
	<!ATTLIST many-to-many fetch (join|select) #IMPLIED>
	<!ATTLIST many-to-many lazy (false|proxy) #IMPLIED>
	<!ATTLIST many-to-many foreign-key CDATA #IMPLIED>
	<!ATTLIST many-to-many unique (true|false) "false">
	<!ATTLIST many-to-many where CDATA #IMPLIED>
	<!ATTLIST many-to-many order-by CDATA #IMPLIED>
	<!ATTLIST many-to-many property-ref CDATA #IMPLIED>

<!ELEMENT composite-element (
	(meta*),
	parent?,
	tuplizer*,
	(property|many-to-one|any|nested-composite-element)*
)>
	<!ATTLIST composite-element class CDATA #REQUIRED>
	<!ATTLIST composite-element node CDATA #IMPLIED>

<!ELEMENT nested-composite-element (
	parent?,
	tuplizer*,
	(property|many-to-one|any|nested-composite-element)*
)>
	<!ATTLIST nested-composite-element class CDATA #REQUIRED>
	<!ATTLIST nested-composite-element name CDATA #REQUIRED>
	<!ATTLIST nested-composite-element access CDATA #IMPLIED>
	<!ATTLIST nested-composite-element node CDATA #IMPLIED>

<!ELEMENT many-to-any (meta-value*,column, column+)>
	<!ATTLIST many-to-any id-type CDATA #REQUIRED>
	<!ATTLIST many-to-any meta-type CDATA #IMPLIED>

<!ELEMENT collection-id (meta*, column*, generator)>
	<!ATTLIST collection-id column CDATA #REQUIRED>
	<!ATTLIST collection-id type CDATA #REQUIRED>
	<!ATTLIST collection-id length CDATA #IMPLIED>

<!ELEMENT generator (param*)>
	<!ATTLIST generator class CDATA #REQUIRED>
<!ELEMENT param (#PCDATA)>
	<!ATTLIST param name CDATA #REQUIRED>

<!ELEMENT column (comment?)>
	<!ATTLIST column name CDATA #REQUIRED>
	<!ATTLIST column length CDATA #IMPLIED>
	<!ATTLIST column precision CDATA #IMPLIED>
	<!ATTLIST column scale CDATA #IMPLIED>
	<!ATTLIST column not-null (true|false) #IMPLIED>
	<!ATTLIST column unique (true|false) #IMPLIED>
	<!ATTLIST column unique-key CDATA #IMPLIED>
	<!ATTLIST column sql-type CDATA #IMPLIED>
	<!ATTLIST column index CDATA #IMPLIED>
	<!ATTLIST column check CDATA #IMPLIED>
	<!ATTLIST column default CDATA #IMPLIED>
	<!ATTLIST column read CDATA #IMPLIED>
	<!ATTLIST column write CDATA #IMPLIED>

<!ELEMENT formula (#PCDATA)>

<!ELEMENT comment (#PCDATA)>

<!ELEMENT cache EMPTY>
	<!ATTLIST cache usage (read-only|read-write|nonstrict-read-write|transactional) #REQUIRED>
	<!ATTLIST cache region CDATA #IMPLIED>
	<!ATTLIST cache include (all|non-lazy) "all">

<!ELEMENT synchronize EMPTY>
	<!ATTLIST synchronize table CDATA #REQUIRED>

<!ELEMENT natural-id (property|many-to-one|component|dynamic-component|any)*>
	<!ATTLIST natural-id mutable (true|false) "false">

<!-- Filters. -->

<!ELEMENT filter-def (#PCDATA|filter-param)*>
	<!ATTLIST filter-def name CDATA #REQUIRED>
	<!ATTLIST filter-def condition CDATA #IMPLIED>

<!ELEMENT filter-param EMPTY>
	<!ATTLIST filter-param name CDATA #REQUIRED>
	<!ATTLIST filter-param type CDATA #REQUIRED>

<!ELEMENT filter (#PCDATA)>
	<!ATTLIST filter name CDATA #REQUIRED>
	<!ATTLIST filter condition CDATA #IMPLIED>

<!ELEMENT fetch-profile (fetch*)>
	<!ATTLIST fetch-profile name CDATA #REQUIRED>

<!ELEMENT fetch EMPTY>
	<!ATTLIST fetch entity CDATA #IMPLIED>
	<!ATTLIST fetch association CDATA #REQUIRED>
	<!ATTLIST fetch style (join|select) "join">

<!-- Queries and native SQL. -->

<!ELEMENT query (#PCDATA|query-param)*>
	<!ATTLIST query name CDATA #REQUIRED>
	<!ATTLIST query flush-mode (auto|never|always) #IMPLIED>
	<!ATTLIST query cacheable (true|false) "false">
	<!ATTLIST query cache-region CDATA #IMPLIED>
	<!ATTLIST query fetch-size CDATA #IMPLIED>
	<!ATTLIST query timeout CDATA #IMPLIED>
	<!ATTLIST query cache-mode (get|ignore|normal|put|refresh) #IMPLIED>
	<!ATTLIST query read-only (true|false) #IMPLIED>
	<!ATTLIST query comment CDATA #IMPLIED>

<!ELEMENT sql-query (#PCDATA|return-scalar|return|return-join|load-collection|synchronize|query-param)*>
	<!ATTLIST sql-query name CDATA #REQUIRED>
	<!ATTLIST sql-query resultset-ref CDATA #IMPLIED>
	<!ATTLIST sql-query flush-mode (auto|never|always) #IMPLIED>
	<!ATTLIST sql-query cacheable (true|false) "false">
	<!ATTLIST sql-query cache-region CDATA #IMPLIED>
	<!ATTLIST sql-query fetch-size CDATA #IMPLIED>
	<!ATTLIST sql-query timeout CDATA #IMPLIED>
	<!ATTLIST sql-query cache-mode (get|ignore|normal|put|refresh) #IMPLIED>
	<!ATTLIST sql-query read-only (true|false) #IMPLIED>
	<!ATTLIST sql-query comment CDATA #IMPLIED>
	<!ATTLIST sql-query callable (true|false) "false">

<!ELEMENT query-param EMPTY>
	<!ATTLIST query-param name CDATA #REQUIRED>
	<!ATTLIST query-param type CDATA #REQUIRED>

<!ELEMENT resultset (return-scalar|return|return-join|load-collection)*>
	<!ATTLIST resultset name CDATA #REQUIRED>

<!ELEMENT return (return-discriminator?,return-property)*>
	<!ATTLIST return alias CDATA #IMPLIED>
	<!ATTLIST return entity-name CDATA #IMPLIED>
	<!ATTLIST return class CDATA #IMPLIED>
	<!ATTLIST return lock-mode (none|read|upgrade|upgrade-nowait|write) "read">

<!ELEMENT return-property (return-column*)>
	<!ATTLIST return-property name CDATA #REQUIRED>
	<!ATTLIST return-property column CDATA #IMPLIED>

<!ELEMENT return-column EMPTY>
	<!ATTLIST return-column name CDATA #REQUIRED>

<!ELEMENT return-discriminator EMPTY>
	<!ATTLIST return-discriminator column CDATA #REQUIRED>

<!ELEMENT return-join (return-property)*>
	<!ATTLIST return-join alias CDATA #REQUIRED>
	<!ATTLIST return-join property CDATA #REQUIRED>
	<!ATTLIST return-join lock-mode (none|read|upgrade|upgrade-nowait|write) "read">

<!ELEMENT load-collection (return-property)*>
	<!ATTLIST load-collection alias CDATA #REQUIRED>
	<!ATTLIST load-collection role CDATA #REQUIRED>
	<!ATTLIST load-collection lock-mode (none|read|upgrade|upgrade-nowait|write) "read">

<!ELEMENT return-scalar EMPTY>
	<!ATTLIST return-scalar column CDATA #REQUIRED>
	<!ATTLIST return-scalar type CDATA #IMPLIED>

<!ELEMENT loader EMPTY>
	<!ATTLIST loader query-ref CDATA #REQUIRED>

<!ELEMENT sql-insert (#PCDATA)>
	<!ATTLIST sql-insert callable (true|false) "false">
	<!ATTLIST sql-insert check (none|rowcount|param) #IMPLIED>

<!ELEMENT sql-update (#PCDATA)>
	<!ATTLIST sql-update callable (true|false) "false">
	<!ATTLIST sql-update check (none|rowcount|param) #IMPLIED>

<!ELEMENT sql-delete (#PCDATA)>
	<!ATTLIST sql-delete callable (true|false) "false">
	<!ATTLIST sql-delete check (none|rowcount|param) #IMPLIED>

<!ELEMENT sql-delete-all (#PCDATA)>
	<!ATTLIST sql-delete-all callable (true|false) "false">
	<!ATTLIST sql-delete-all check (none|rowcount|param) #IMPLIED>

<!ELEMENT subselect (#PCDATA)>

<!ELEMENT database-object ( (definition|(create,drop)), dialect-scope* )>

<!ELEMENT definition EMPTY>
	<!ATTLIST definition class CDATA #REQUIRED>

<!ELEMENT create (#PCDATA)>
<!ELEMENT drop (#PCDATA)>

<!ELEMENT dialect-scope (#PCDATA)>
	<!ATTLIST dialect-scope name CDATA #REQUIRED>
"#

end EntityScaffold.Schema
